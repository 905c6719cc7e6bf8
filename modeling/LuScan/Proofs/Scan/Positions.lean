import LuScan.Proofs.Scan.Agreement
import LuScan.Proofs.Scan.Calls
import LuScan.Proofs.Stream.Decoded

/-!
Positions over whole runs. After every call, whatever the stream did, the position counts what was
decoded so far and not held back; so results stand in the order in which they are given.
-/
namespace LuScan

/-- Where a result stands. -/
def resultPos : Except ScanError Token → Position
  | .ok token => token.pos
  | .error e => e.pos

/-- The earlier result stands no later than the later one, and before it if it is a token that
covers some characters. -/
def Precedes (earlier later : Except ScanError Token) : Prop :=
  resultPos earlier ≤ resultPos later ∧
    ∀ t, earlier = .ok t → t.kind ≠ .endOfInput → t.pos < resultPos later

namespace Head

variable {l : Lexicon} {h t m : Head} {c : Char} {stream : ByteStream} {passed before : List Char}

/-- The head has passed the characters `passed` of the stream: all that have been decoded but the
one that is held back. Its position counts them. -/
structure Passed (stream : ByteStream) (passed : List Char) (h : Head) : Prop where
  decodes : stream.Decodes (passed ++ h.reader.pending.toList) h.reader.stream
  pos_eq : h.pos = .ofText passed

/-- A read failed with `e` once all of `passed` had been decoded, which left the head `h`. -/
inductive FailedAfter (stream : ByteStream) (passed : List Char) : ScanError → Head → Prop
  | read {u : ByteStream} {error : ReadError} {h : Head} : stream.Decodes passed u →
      u.char = (.error error, h.reader.stream) → h.reader.pending = none →
      h.Passed stream passed → FailedAfter stream passed ⟨.stream error, .ofText passed⟩ h

/-- A read takes the character that is held back, or else reads the stream. -/
theorem read_cases {r : Except ScanError (Option Char)} (hr : h.read = (r, t)) :
    t.pos = h.pos ∧ t.reader.pending = none ∧
      ((∃ c, h.reader.pending = some c ∧ t.reader.stream = h.reader.stream ∧ r = .ok (some c)) ∨
        ∃ q, h.reader.pending = none ∧ h.reader.stream.char = (q, t.reader.stream) ∧
          r = q.mapError fun e => ⟨.stream e, h.pos⟩) := by
  unfold read Reader.read at hr
  cases hp : h.reader.pending with
  | some c =>
    simp only [hp] at hr
    cases hr
    exact ⟨rfl, rfl, .inl ⟨c, rfl, rfl, rfl⟩⟩
  | none =>
    simp only [hp] at hr
    cases hchar : h.reader.stream.char with
    | mk q u =>
      cases q with
      | ok read =>
        simp only [hchar] at hr
        cases hr
        exact ⟨rfl, rfl, .inr ⟨_, rfl, rfl, rfl⟩⟩
      | error e =>
        simp only [hchar] at hr
        cases hr
        exact ⟨rfl, rfl, .inr ⟨_, rfl, rfl, rfl⟩⟩

namespace Passed

theorem ofStream (stream : ByteStream) : Passed stream [] { reader := .ofStream stream } where
  decodes := .nil
  pos_eq := rfl

/-- What a read gives has been decoded, be it now or before. -/
theorem decodes_read (hp : h.Passed stream passed) {read : Option Char}
    (hr : h.read = (.ok read, t)) :
    stream.Decodes (passed ++ read.toList) t.reader.stream ∧ t.reader.pending = none ∧
      t.pos = .ofText passed := by
  obtain ⟨hpos, hnone, ⟨c, hheld, hstream, hc⟩ | ⟨q, hheld, hchar, hq⟩⟩ := read_cases hr
  · have hdecodes := hp.decodes
    rw [hheld, ← hstream] at hdecodes
    cases hc
    exact ⟨hdecodes, hnone, hpos.trans hp.pos_eq⟩
  · have hdecodes := hp.decodes
    rw [hheld, Option.toList_none, List.append_nil] at hdecodes
    have hstep := hdecodes.step hchar
    cases q with
    | error e => cases hq
    | ok found =>
      cases hq
      exact ⟨hstep, hnone, hpos.trans hp.pos_eq⟩

theorem read_char (hp : h.Passed stream passed) (hr : h.read = (.ok (some c), t)) :
    (t.advance c).Passed stream (passed ++ [c]) := by
  obtain ⟨hdecodes, hnone, hpos⟩ := hp.decodes_read hr
  constructor
  · rw [reader_advance, hnone, Option.toList_none, List.append_nil]
    exact hdecodes
  · rw [pos_advance, hpos, Position.ofText_concat]

theorem read_end (hp : h.Passed stream passed) (hr : h.read = (.ok none, t)) :
    t.Passed stream passed := by
  obtain ⟨hdecodes, hnone, hpos⟩ := hp.decodes_read hr
  constructor
  · rw [hnone]
    exact hdecodes
  · exact hpos

theorem read_error (hp : h.Passed stream passed) {e : ScanError} (hr : h.read = (.error e, t)) :
    FailedAfter stream passed e t := by
  obtain ⟨hpos, hnone, ⟨c, -, -, hc⟩ | ⟨q, hheld, hchar, hq⟩⟩ := read_cases hr
  · cases hc
  · have hdecodes := hp.decodes
    rw [hheld, Option.toList_none, List.append_nil] at hdecodes
    have hstep := hdecodes.step hchar
    cases q with
    | ok found => cases hq
    | error error =>
      cases hq
      rw [hp.pos_eq] at hpos ⊢
      rw [ByteStream.taken, List.append_nil] at hstep
      refine .read hdecodes hchar hnone ⟨?_, hpos⟩
      rw [hnone, Option.toList_none, List.append_nil]
      exact hstep

/-- A character that is pushed back has not been passed. -/
theorem unread (hp : h.Passed stream passed) (hr : h.read = (.ok (some c), t))
    (hu : t.unread = (.ok (), m)) : m.Passed stream passed := by
  obtain ⟨hdecodes, -, hpos⟩ := hp.decodes_read hr
  cases (unread_of_read hr).symm.trans hu
  exact ⟨hdecodes, hpos⟩

end Passed

/-- What a step leaves that had `before` behind it: the characters of its result have been passed
too, or it failed after some of them. -/
inductive Steps {α : Type} (stream : ByteStream) (before : List Char) (chars : α → List Char) :
    Except ScanError α × Head → Prop
  | ok {a : α} {h : Head} : h.Passed stream (before ++ chars a) →
      Steps stream before chars (.ok a, h)
  | error {e : ScanError} {h : Head} {lost : List Char} :
      FailedAfter stream (before ++ lost) e h → Steps stream before chars (.error e, h)

theorem steps_run {accept : Char → Bool} {acc : List Char}
    (hp : h.Passed stream (before ++ acc.reverse)) :
    Steps stream before id (h.run accept acc) := by
  fun_induction run accept acc h with
  | case1 acc h e t hr => exact .error (hp.read_error hr)
  | case2 acc h t hr => exact .ok (hp.read_end hr)
  | case3 acc h c t hr hc ih =>
    apply ih
    have hnext := hp.read_char hr
    rw [List.append_assoc, ← List.reverse_cons] at hnext
    exact hnext
  | case4 acc h c t hr hc m hu => exact .ok (hp.unread hr hu)
  | case5 acc h c t hr hc e m hu =>
    rw [unread_of_read hr] at hu
    cases hu

theorem steps_quoted {acc : List Char} (hp : h.Passed stream (before ++ acc.reverse)) :
    Steps stream before Prod.fst (h.quoted acc) := by
  fun_induction quoted acc h with
  | case1 acc h e t hr => exact .error (hp.read_error hr)
  | case2 acc h t hr => exact .ok (hp.read_end hr)
  | case3 acc h t hr =>
    have hnext := hp.read_char hr
    rw [List.append_assoc, ← List.reverse_cons] at hnext
    exact .ok hnext
  | case4 acc h c t hr hc ih =>
    apply ih
    have hnext := hp.read_char hr
    rw [List.append_assoc, ← List.reverse_cons] at hnext
    exact hnext

/-- What a scan leaves that had `before` behind it. Its token stands after some gap, and its own
characters are the last ones passed: none at the end of input, and some for any other token. -/
inductive Scans (stream : ByteStream) (before : List Char) : Except ScanError Token → Head → Prop
  | token {t : Token} {h : Head} {gap : List Char} : (∀ c ∈ gap, isGap c = true) →
      t.pos = .ofText (before ++ gap) →
      h.Passed stream (before ++ gap ++ t.sourceText.toList) →
      (t.sourceText = "" ↔ t.kind = .endOfInput) → Scans stream before (.ok t) h
  | error {e : ScanError} {h : Head} {lost : List Char} :
      FailedAfter stream (before ++ lost) e h → Scans stream before (.error e) h

/-- A token that stands right after `before`, without a gap. -/
theorem Scans.of_passed {t : Token} (hpos : t.pos = .ofText before)
    (hp : h.Passed stream (before ++ t.sourceText.toList))
    (htext : t.sourceText = "" ↔ t.kind = .endOfInput) : Scans stream before (.ok t) h := by
  have hgap : ∀ c ∈ ([] : List Char), isGap c = true := by simp
  rw [← List.append_nil before] at hpos hp
  exact .token hgap hpos hp htext

/-- A step whose characters are the literal of a token. -/
theorem Steps.scans {α : Type} {chars : α → List Char} {r : Except ScanError α × Head}
    (hs : Steps stream before chars r) (source : String) {f : α → Kind × String}
    (hf : ∀ a, r.1 = .ok a → (f a).2.toList = chars a ∧ chars a ≠ [] ∧
      (f a).1 ≠ .newline ∧ (f a).1 ≠ .endOfInput) :
    Scans stream before ((r.1.map f).map fun q => ⟨source, .ofText before, q.1, q.2⟩) r.2 := by
  cases hs with
  | error hfail => exact .error hfail
  | @ok a h hp =>
    obtain ⟨hliteral, hne, hnewline, hend⟩ := hf a rfl
    let token : Token := ⟨source, .ofText before, (f a).1, (f a).2⟩
    have htext : token.sourceText = (f a).2 := Token.sourceText_of_ne hnewline
    rw [← hliteral, ← htext] at hp
    have hsome : token.sourceText ≠ "" := by
      intro hempty
      rw [← htext, hempty] at hliteral
      exact hne hliteral.symm
    exact .of_passed (t := token) rfl hp ⟨fun he => absurd he hsome, fun he => absurd he hend⟩

/-- From the character that opens it on, a token covers what the head passes. -/
theorem scans_lexeme (hl : l.Sound) {o : Lexicon.Opening} (ho : l.opening? c = some o)
    (source : String) {t : Head} (hr : h.read = (.ok (some c), t)) (hp : h.Passed stream before) :
    Scans stream before
      ((t.lexeme l c o).1.map fun r => ⟨source, .ofText before, r.1, r.2⟩)
      (t.lexeme l c o).2 := by
  have hnext : (t.advance c).Passed stream (before ++ [c]) := hp.read_char hr
  have hacc : (t.advance c).Passed stream (before ++ [c].reverse) := hnext
  rcases class_cases c with hc | rfl | hc | hc | rfl | hc
  · cases (Lexicon.opening?_of_isGap hl hc).symm.trans ho
  · cases ho
    let token : Token := ⟨source, .ofText before, .newline, Token.newlineMarker⟩
    have htext : token.sourceText = "\n" := Token.sourceText_of_newline rfl
    refine .of_passed (t := token) rfl ?_ ?_
    · rw [htext]
      exact hnext
    · rw [htext]
      exact ⟨fun he => absurd he (by decide), Kind.noConfusion⟩
  · cases (Lexicon.opening?_of_isDigit hl hc).symm.trans ho
    rw [lexeme_digits hr hc]
    apply (steps_run hacc).scans
    intro cs hcs
    obtain ⟨xs, rfl, -⟩ := exists_of_run hcs
    exact ⟨by simp, by simp, Kind.noConfusion, Kind.noConfusion⟩
  · cases (Lexicon.opening?_of_isWordStart hl hc).symm.trans ho
    rw [lexeme_word hr hc]
    apply (steps_run hacc).scans
    intro cs hcs
    obtain ⟨xs, rfl, -⟩ := exists_of_run hcs
    have hword := hl.isWord_wordKind (String.ofList ([c].reverse ++ xs))
    exact ⟨by simp, by simp, Kind.ne_of_isWord hword rfl, Kind.ne_of_isWord hword rfl⟩
  · cases (Lexicon.opening?_quoteMark hl).symm.trans ho
    apply (steps_quoted hacc).scans
    rintro ⟨cs, closed⟩ hcs
    obtain ⟨xs, rfl⟩ := exists_of_quoted hcs
    cases closed with
    | true => exact ⟨by simp, by simp, Kind.noConfusion, Kind.noConfusion⟩
    | false => exact ⟨by simp, by simp, Kind.noConfusion, Kind.noConfusion⟩
  · rw [lexeme_of_isFree hl hc ho]
    have hfree : Steps stream before (fun r : Kind × String => r.2.toList)
        (.ok (l.symbolKind c, String.singleton c), t.advance c) := .ok (by simpa using hnext)
    apply hfree.scans (f := id)
    rintro _ ⟨⟩
    exact ⟨rfl, by simp, hl.symbolKind_ne c⟩

/-- A scan that passes a gap first leaves what it would have left after it. -/
theorem Scans.of_gap {r : Except ScanError Token} (hc : isGap c = true)
    (hs : Scans stream (before ++ [c]) r h) : Scans stream before r h := by
  cases hs with
  | @token t h gap hgap hpos hp htext =>
    rw [List.append_assoc before] at hpos hp
    exact .token (List.forall_mem_cons.mpr ⟨hc, hgap⟩) hpos hp htext
  | error hfail =>
    rw [List.append_assoc] at hfail
    exact .error hfail

theorem scans_scan (hl : l.Sound) (source : String) (hp : h.Passed stream passed) :
    Scans stream passed (h.scan l source).1 (h.scan l source).2 := by
  fun_induction scan l source h generalizing passed with
  | case1 h e t hr =>
    have hfail := hp.read_error hr
    rw [← List.append_nil passed] at hfail
    exact .error hfail
  | case2 h t hr =>
    refine .of_passed hp.pos_eq ?_ ⟨fun _ => rfl, fun _ => rfl⟩
    simpa [Token.sourceText] using hp.read_end hr
  | case3 h c t hr ho ih => exact (ih (hp.read_char hr)).of_gap (Lexicon.isGap_of_opening? ho)
  | case4 h c t hr o ho =>
    have hscans := scans_lexeme hl ho source hr hp
    rw [← hp.pos_eq] at hscans
    exact hscans

theorem Scans.exists_passed {r : Except ScanError Token} (hs : Scans stream before r h) :
    ∃ rest, h.Passed stream (before ++ rest) := by
  cases hs with
  | token _ _ hp _ =>
    rw [List.append_assoc] at hp
    exact ⟨_, hp⟩
  | error hfail =>
    cases hfail with
    | read _ _ _ hp => exact ⟨_, hp⟩

/-- A result does not stand before the place where its scan began. -/
theorem Scans.le_pos {r : Except ScanError Token} (hs : Scans stream before r h) :
    .ofText before ≤ resultPos r := by
  cases hs with
  | token _ hpos _ _ =>
    rw [resultPos, hpos, Position.ofText_append]
    exact Position.le_after _ _
  | error hfail =>
    cases hfail with
    | read =>
      rw [resultPos, Position.ofText_append]
      exact Position.le_after _ _

/-- Nor does it stand behind the place where its scan ended, and a token stands before that. -/
theorem Scans.pos_le {r : Except ScanError Token} (hs : Scans stream before r h) :
    resultPos r ≤ h.pos ∧ ∀ t, r = .ok t → t.kind ≠ .endOfInput → t.pos < h.pos := by
  cases hs with
  | @token t h gap _ hpos hp htext =>
    have hend : h.pos = t.pos.after t.sourceText.toList := by
      rw [hp.pos_eq, Position.ofText_append, hpos]
    constructor
    · rw [resultPos, hend]
      exact Position.le_after _ _
    · rintro _ ⟨⟩ hkind
      rw [hend]
      apply Position.lt_after
      intro hnil
      exact hkind (htext.mp (String.toList_eq_nil_iff.mp hnil))
  | error hfail =>
    cases hfail with
    | read _ _ _ hp =>
      constructor
      · rw [hp.pos_eq]
        exact le_refl _
      · intro t ht
        cases ht

end Head

namespace Scanner

variable {s t : Scanner} {c : Call} {answer : Option (Except ScanError Token)}
  {stream : ByteStream} {passed : List Char}

/-- One call: the position goes on counting, and the answer stands between the positions before and
after it. -/
theorem call_passed (hl : s.lexicon.Sound) (hp : s.head.Passed stream passed)
    (h : s.call c = (answer, t)) :
    t.lexicon = s.lexicon ∧ (∃ passed, t.head.Passed stream passed) ∧ s.head.pos ≤ t.head.pos ∧
      ∀ r, answer = some r → Head.Scans stream passed r t.head := by
  rcases call_cases h with ⟨rfl, rfl⟩ | ⟨r, rfl, hscan, hlexicon, -⟩
  · refine ⟨rfl, ⟨passed, hp⟩, le_refl _, ?_⟩
    intro r hr
    cases hr
  · have hscans := Head.scans_scan hl s.source hp
    rw [hscan] at hscans
    obtain ⟨rest, hrest⟩ := hscans.exists_passed
    refine ⟨hlexicon, ⟨_, hrest⟩, ?_, ?_⟩
    · rw [hp.pos_eq, hrest.pos_eq, Position.ofText_append]
      exact Position.le_after _ _
    · rintro _ ⟨⟩
      exact hscans

/-- Any calls: the position goes on counting. -/
theorem run_passed (hl : s.lexicon.Sound) (hp : s.head.Passed stream passed) (calls : List Call) :
    (s.run calls).2.lexicon = s.lexicon ∧ ∃ passed, (s.run calls).2.head.Passed stream passed := by
  induction calls generalizing s passed with
  | nil => exact ⟨rfl, passed, hp⟩
  | cons c calls ih =>
    rcases hcall : s.call c with ⟨answer, t⟩
    obtain ⟨hlexicon, ⟨next, hnext⟩, -, -⟩ := call_passed hl hp hcall
    obtain ⟨hsame, hrest⟩ := ih (hlexicon ▸ hl) hnext
    rw [run_cons calls hcall]
    exact ⟨hsame.trans hlexicon, hrest⟩

/-- No answer stands before the place where the calls began. -/
theorem le_pos_of_mem_run (hl : s.lexicon.Sound) (hp : s.head.Passed stream passed)
    {calls : List Call} {r : Except ScanError Token} (hr : some r ∈ (s.run calls).1) :
    s.head.pos ≤ resultPos r := by
  induction calls generalizing s passed with
  | nil => cases hr
  | cons c calls ih =>
    rcases hcall : s.call c with ⟨answer, t⟩
    obtain ⟨hlexicon, ⟨next, hnext⟩, hle, hscans⟩ := call_passed hl hp hcall
    rw [run_cons calls hcall, List.mem_cons] at hr
    rcases hr with hr | hr
    · rw [hp.pos_eq]
      exact (hscans r hr.symm).le_pos
    · exact hle.trans (ih (hlexicon ▸ hl) hnext hr)

theorem pairwise_run (hl : s.lexicon.Sound) (hp : s.head.Passed stream passed)
    (calls : List Call) : ((s.run calls).1.filterMap id).Pairwise Precedes := by
  induction calls generalizing s passed with
  | nil => exact .nil
  | cons c calls ih =>
    rcases hcall : s.call c with ⟨answer, t⟩
    obtain ⟨hlexicon, ⟨next, hnext⟩, -, hscans⟩ := call_passed hl hp hcall
    have hrest := ih (hlexicon ▸ hl) hnext
    rw [run_cons calls hcall]
    cases answer with
    | none => exact hrest
    | some r =>
      obtain ⟨hpos, htoken⟩ := (hscans r rfl).pos_le
      rw [List.filterMap_cons_some (id_eq _), List.pairwise_cons]
      refine ⟨?_, hrest⟩
      intro later hlater
      have hmem : some later ∈ (t.run calls).1 := by simpa using hlater
      have hle := le_pos_of_mem_run (hlexicon ▸ hl) hnext hmem
      exact ⟨hpos.trans hle, fun token ht hkind => (htoken token ht hkind).trans_le hle⟩

end Scanner

/-- After any calls on a scanner of any stream, the position counts the characters that have been
decoded and are not held back. What the next call gives stands where that count was before its first
character, or before the read that failed; and no result stands before an earlier one, nor at the
place of an earlier token. -/
theorem position_counts_passed {l : Lexicon} (hl : l.Reachable) (source : String)
    (stream : ByteStream) {calls : List Call} {answers : List (Option (Except ScanError Token))}
    {s : Scanner} (hrun : (Scanner.ofStream source l stream).run calls = (answers, s)) :
    (∃ passed, s.head.pos = .ofText passed ∧
      (∀ decoded, stream.Decodes decoded s.head.reader.stream ↔
        decoded = passed ++ s.head.reader.pending.toList) ∧
      ∀ (c : Call) (r : Except ScanError Token) (t : Scanner), s.call c = (some r, t) →
        Head.Scans stream passed r t.head) ∧
      (answers.filterMap id).Pairwise Precedes := by
  have hstart := Head.Passed.ofStream stream
  have hpairs := Scanner.pairwise_run (s := .ofStream source l stream) hl.sound hstart calls
  obtain ⟨hlexicon, passed, hp⟩ :=
    Scanner.run_passed (s := .ofStream source l stream) hl.sound hstart calls
  rw [hrun] at hpairs hlexicon hp
  refine ⟨⟨passed, hp.pos_eq, ?_, ?_⟩, hpairs⟩
  · intro decoded
    constructor
    · intro hd
      exact hd.unique hp.decodes
    · rintro rfl
      exact hp.decodes
  · intro c r t hcall
    have hl' : s.lexicon.Sound := hlexicon ▸ hl.sound
    obtain ⟨-, -, -, hscans⟩ := Scanner.call_passed hl' hp hcall
    exact hscans r rfl

/-- A failure in the middle of a number, after which pulls give nothing and scans go on. -/
theorem position_counts_passed_after_failure : Lexicon.standard.Reachable ∧
    ∃ (answers : List (Option (Except ScanError Token))) (s : Scanner),
      (Scanner.ofStream "m" .standard [.bytes [49], .failed ⟨.other, "gone"⟩, .bytes [50, 10, 98],
        .endReport]).run [.pull, .pull, .scan, .scan, .scan] = (answers, s) ∧
      answers = [some (.error ⟨.stream (.failed ⟨.other, "gone"⟩), ⟨1, 1⟩⟩), none,
        some (.ok ⟨"m", ⟨1, 1⟩, .integer, "2"⟩), some (.ok ⟨"m", ⟨1, 2⟩, .newline, "\\n"⟩),
        some (.ok ⟨"m", ⟨2, 0⟩, .identifier, "b"⟩)] ∧
      (∃ passed, s.head.pos = .ofText passed ∧
        (∀ decoded, ByteStream.Decodes [.bytes [49], .failed ⟨.other, "gone"⟩,
            .bytes [50, 10, 98], .endReport] decoded s.head.reader.stream ↔
          decoded = passed ++ s.head.reader.pending.toList) ∧
        ∀ (c : Call) (r : Except ScanError Token) (t : Scanner), s.call c = (some r, t) →
          Head.Scans [.bytes [49], .failed ⟨.other, "gone"⟩, .bytes [50, 10, 98], .endReport]
            passed r t.head) ∧
      (answers.filterMap id).Pairwise Precedes := by
  refine ⟨.standard, _, _, rfl, by decide +kernel, ?_⟩
  exact position_counts_passed .standard "m" _
    (Prod.eta (Scanner.run _ [.pull, .pull, .scan, .scan, .scan])).symm

end LuScan
