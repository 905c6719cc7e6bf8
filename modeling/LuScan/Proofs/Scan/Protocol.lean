import LuScan.Proofs.Scan.Failure
import LuScan.Proofs.Scan.Positions
import LuScan.Proofs.Stream.Calls

/-!
Scans and pulls of one scanner in any order. All of them share one run of results, in which every
token has taken characters; so it comes to a last result, after which pulls give nothing.
-/
namespace LuScan

/-- A result with nothing to pull after it: an error, or the end of input. -/
inductive IsLast : Except ScanError Token → Prop
  | error (e : ScanError) : IsLast (.error e)
  | endOfInput {t : Token} : t.kind = .endOfInput → IsLast (.ok t)

theorem isFinal_iff {r : Except ScanError Token} : isFinal r = true ↔ IsLast r := by
  cases r with
  | error e => exact iff_of_true rfl (.error e)
  | ok t =>
    rw [isFinal, beq_iff_eq]
    constructor
    · exact .endOfInput
    · intro h
      cases h with
      | endOfInput hk => exact hk

namespace Head

variable {l : Lexicon} {source : String} {h k m t : Head} {c : Char} {stream : ByteStream}
  {passed : List Char} {token : Token} {ts : List Token}

theorem exists_of_map_eq_ok {ε α β : Type} {r : Except ε α} {f : α → β} {b : β}
    (h : r.map f = .ok b) : ∃ a, r = .ok a ∧ f a = b := by
  cases r with
  | error e => cases h
  | ok a => exact ⟨a, rfl, Except.ok.inj h⟩

theorem literal_ne_of_lexeme {o : Lexicon.Opening} {kind : Kind} {literal : String}
    (hr : h.read = (.ok (some c), t)) (ho : l.opening? c = some o)
    (hs : (t.lexeme l c o).1 = .ok (kind, literal)) : literal ≠ "" := by
  cases o with
  | newline =>
    cases hs
    decide
  | symbol _ | stray =>
    cases hs
    simp
  | digits =>
    obtain ⟨cs, hrun, hmap⟩ := exists_of_map_eq_ok hs
    obtain ⟨xs, rfl, -⟩ := exists_of_rerun hr (Lexicon.isDigit_of_opening? ho) hrun
    cases hmap
    simp
  | word =>
    obtain ⟨cs, hrun, hmap⟩ := exists_of_map_eq_ok hs
    have hc := isWordPart_of_isWordStart (Lexicon.isWordStart_of_opening? ho)
    obtain ⟨xs, rfl, -⟩ := exists_of_rerun hr hc hrun
    cases hmap
    simp
  | text =>
    obtain ⟨⟨cs, closed⟩, hquoted, hmap⟩ := exists_of_map_eq_ok hs
    obtain ⟨xs, rfl⟩ := exists_of_quoted hquoted
    cases hmap
    simp

theorem literal_ne_of_scan (hs : (h.scan l source).1 = .ok token)
    (hk : token.kind ≠ .endOfInput) : token.literal ≠ "" := by
  fun_induction scan l source h with
  | case1 => cases hs
  | case2 =>
    cases hs
    exact absurd rfl hk
  | case3 _ _ _ _ _ ih => exact ih hs
  | case4 h c t hr o ho r =>
    obtain ⟨⟨kind, literal⟩, hlexeme, rfl⟩ := exists_of_map_eq_ok hs
    exact literal_ne_of_lexeme hr ho hlexeme

/-- A scan fails only where the stream does. -/
theorem exists_stream_of_scan (hl : l.Sound) (hp : h.Passed stream passed) {e : ScanError}
    (hs : (h.scan l source).1 = .error e) : ∃ error, e.cause = .stream error := by
  have hscans := scans_scan hl source hp
  rw [hs] at hscans
  cases hscans with
  | error hfail =>
    cases hfail
    exact ⟨_, rfl⟩

/-- A token takes characters. -/
theorem exists_taken_of_scan (hl : l.Sound) (hp : h.Passed stream passed)
    (hs : h.scan l source = (.ok token, k)) (hk : token.kind ≠ .endOfInput) :
    ∃ taken, taken ≠ [] ∧ k.Passed stream (passed ++ taken) := by
  have hscans := scans_scan hl source hp
  rw [hs] at hscans
  cases hscans with
  | @token _ _ gap hgap hpos hnext htext =>
    rw [List.append_assoc] at hnext
    refine ⟨_, ?_, hnext⟩
    intro hnil
    obtain ⟨-, hempty⟩ := List.append_eq_nil_iff.mp hnil
    exact hk (htext.mp (String.toList_eq_nil_iff.mp hempty))

theorem Gives.kind_ne (hg : Gives l source h ts m) : ∀ t ∈ ts, t.kind ≠ .endOfInput := by
  induction hg with
  | nil => simp
  | cons _ hkind _ ih => exact List.forall_mem_cons.mpr ⟨hkind, ih⟩

/-- Tokens take at least a character each. -/
theorem Gives.exists_taken (hg : Gives l source h ts m) (hl : l.Sound)
    (hp : h.Passed stream passed) :
    ∃ taken, ts.length ≤ taken.length ∧ m.Passed stream (passed ++ taken) := by
  induction hg generalizing passed with
  | nil => exact ⟨[], Nat.le_refl _, by rwa [List.append_nil]⟩
  | cons hscan hkind _ ih =>
    obtain ⟨first, hne, hnext⟩ := exists_taken_of_scan hl hp hscan hkind
    obtain ⟨rest, hle, hrest⟩ := ih hnext
    have hpos := List.length_pos_of_ne_nil hne
    rw [List.append_assoc] at hrest
    refine ⟨first ++ rest, ?_, hrest⟩
    rw [List.length_append, List.length_cons]
    omega

/-- After some tokens, a scan gives the end of input or an error. -/
theorem exists_gives_final (l : Lexicon) (source : String) (h : Head) :
    ∃ ts m, Gives l source h ts m ∧ isFinal (m.scan l source).1 = true := by
  -- By what is left to read, which every token makes less.
  generalize hn : h.size = n
  induction n using Nat.strongRecOn generalizing h with
  | ind n ih =>
    rcases hscan : h.scan l source with ⟨r, k⟩
    cases hfinal : isFinal r with
    | true => exact ⟨[], h, .nil, by rw [hscan, hfinal]⟩
    | false =>
      cases r with
      | error e => cases hfinal
      | ok token =>
        have hkind : token.kind ≠ .endOfInput := by simpa [isFinal] using hfinal
        have hlt : k.size < n := hn ▸ size_scan_lt hscan hkind
        obtain ⟨ts, m, hgives, hlast⟩ := ih _ hlt k rfl
        exact ⟨token :: ts, m, .cons hscan hkind hgives, hlast⟩

end Head

namespace Scanner

variable {s t : Scanner} {c : Call} {answer : Option (Except ScanError Token)}

theorem pull_eq_none_iff (s : Scanner) : s.pull.1 = none ↔ s.done = true := by
  unfold pull
  split <;> simp_all

/-- A call ends the pulls if it is a pull that gives the end of input or an error. -/
theorem done_call_iff (h : s.call c = (answer, t)) :
    t.done = true ↔ s.done = true ∨ ∃ r, (Call.pull, some r) = (c, answer) ∧ IsLast r := by
  cases c with
  | scan =>
    cases h
    simp [scan]
  | pull =>
    cases hd : s.done with
    | true =>
      cases (pull_of_done hd).symm.trans h
      simp [hd]
    | false =>
      cases (pull_of_scan hd rfl).symm.trans h
      simp [isFinal_iff]

theorem done_run_iff (s : Scanner) (calls : List Call) :
    (s.run calls).2.done = true ↔ s.done = true ∨
      ∃ r, (Call.pull, some r) ∈ calls.zip (s.run calls).1 ∧ IsLast r := by
  induction calls generalizing s with
  | nil => simp [run]
  | cons c calls ih =>
    rcases hcall : s.call c with ⟨answer, t⟩
    rw [run_cons calls hcall, List.zip_cons_cons, ih t, done_call_iff hcall, or_assoc]
    simp only [List.mem_cons, or_and_right, exists_or]

theorem scans_succ {r : Except ScanError Token} {k : Head}
    (h : s.head.scan s.lexicon s.source = (r, k)) (n : Nat) :
    s.scans (n + 1) = r :: { s with head := k }.scans n := by
  rw [scans, scan, h]

/-- Scans see nothing of a scanner but its head, lexicon and source. -/
theorem scans_congr (hhead : s.head = t.head) (hlexicon : s.lexicon = t.lexicon)
    (hsource : s.source = t.source) (n : Nat) : s.scans n = t.scans n := by
  induction n generalizing s t with
  | zero => rfl
  | succ n ih =>
    rcases hscan : t.head.scan t.lexicon t.source with ⟨r, k⟩
    have hsame : s.head.scan s.lexicon s.source = (r, k) := by rw [hhead, hlexicon, hsource, hscan]
    rw [scans_succ hscan, scans_succ hsame]
    exact congrArg (r :: ·) (ih rfl hlexicon hsource)

/-- The answers to any calls, less those of pulls that gave nothing, are the results of scans, and
scans go on from there. -/
theorem filterMap_run_append_scans (s : Scanner) (calls : List Call) (n : Nat) :
    (s.run calls).1.filterMap id ++ (s.run calls).2.scans n =
      s.scans (((s.run calls).1.filterMap id).length + n) := by
  induction calls generalizing s with
  | nil =>
    rw [run, List.filterMap_nil, List.length_nil, Nat.zero_add]
    rfl
  | cons c calls ih =>
    rcases hcall : s.call c with ⟨answer, t⟩
    rw [run_cons calls hcall]
    rcases call_cases hcall with ⟨rfl, rfl⟩ | ⟨r, rfl, hscan, hlexicon, hsource⟩
    · exact ih t
    · -- The call was a scan, whatever it did to the pulls.
      have hnext := scans_congr (s := t) (t := { s with head := t.head }) rfl hlexicon hsource
      rw [List.filterMap_cons_some (id_eq _), List.length_cons, Nat.add_right_comm,
        scans_succ hscan, ← hnext, ← ih t]
      rfl

theorem scans_of_gives {l : Lexicon} {source : String} {h m : Head} {ts : List Token}
    (hg : Head.Gives l source h ts m) (done : Bool) (n : Nat) :
    (Scanner.mk source l h done).scans (ts.length + n) =
      ts.map .ok ++ (Scanner.mk source l m done).scans n := by
  induction hg with
  | nil => rw [List.length_nil, Nat.zero_add, List.map_nil, List.nil_append]
  | cons hscan _ _ ih =>
    rw [List.length_cons, Nat.add_right_comm, scans_succ hscan, ih]
    rfl

/-- No call fails for want of a character to push back, and the tokens of all calls are spelled and
take characters. -/
theorem result_of_call {stream : ByteStream} {passed : List Char} {r : Except ScanError Token}
    (hl : s.lexicon.Sound) (hp : s.head.Passed stream passed) (h : s.call c = (some r, t)) :
    (∀ e, r = .error e → e.cause ≠ .pushback) ∧
    ∀ token, r = .ok token → token.kind ≠ .endOfInput → token.literal ≠ "" ∧
      ∃ taken, taken ≠ [] ∧ t.head.Passed stream (passed ++ taken) := by
  rcases call_cases h with ⟨hnone, -⟩ | ⟨_, hsome, hscan, -, -⟩
  · cases hnone
  · cases hsome
    have hresult := congrArg Prod.fst hscan
    constructor
    · rintro e rfl
      obtain ⟨error, he⟩ := Head.exists_stream_of_scan hl hp hresult
      rw [he]
      exact ScanCause.noConfusion
    · rintro token rfl hkind
      exact ⟨Head.literal_ne_of_scan hresult hkind, Head.exists_taken_of_scan hl hp hscan hkind⟩

/-- All that is pulled of a stream: some tokens, no more than it has characters, and a last result.
-/
theorem exists_tokens {l : Lexicon} (hl : l.Sound) (source : String) (stream : ByteStream) :
    ∃ (ts : List Token) (r : Except ScanError Token) (decoded : List Char),
      (ofStream source l stream).scans (ts.length + 1) = ts.map .ok ++ [r] ∧
      (∀ t ∈ ts, t.kind ≠ .endOfInput) ∧ IsLast r ∧
      (ofStream source l stream).tokens = r.map (fun t => ts ++ [t]) ∧
      stream.Decodes decoded (ofStream source l stream).drain.2.head.reader.stream ∧
      ts.length ≤ decoded.length ∧ decoded.length ≤ stream.size := by
  obtain ⟨ts, m, hgives, hfinal⟩ :=
    Head.exists_gives_final l source { reader := .ofStream stream }
  rcases hscan : m.scan l source with ⟨r, k⟩
  rw [hscan] at hfinal
  have hdrain : (ofStream source l stream).drain = _ := drain_of_gives hgives hscan hfinal
  obtain ⟨taken, hle, hm⟩ := hgives.exists_taken hl (Head.Passed.ofStream stream)
  have hlast := Head.scans_scan hl source hm
  rw [hscan] at hlast
  obtain ⟨rest, hk⟩ := hlast.exists_passed
  have hsize := hk.decodes.size_le
  refine ⟨ts, r, _, ?_, hgives.kind_ne, isFinal_iff.mp hfinal, ?_, ?_, ?_,
    Nat.le_of_add_left_le hsize⟩
  · have hlast : (Scanner.mk source l m false).scans 1 = [r] := scans_succ hscan 0
    exact (scans_of_gives hgives false 1).trans (by rw [hlast])
  · rw [tokens, hdrain]
    exact mapM_map_ok_concat ts r
  · rw [hdrain]
    exact hk.decodes
  · simp only [List.length_append]
    omega

end Scanner

/-- After any calls on a scanner of any stream, a pull gives nothing just in case an earlier one
gave the end of input or an error. What the calls gave, and what scans give after them, are the
results of as many scans from the start. The next call does not fail for want of a character to push
back, and a token that it gives is spelled and has taken characters. All tokens together are those
before the first end of input or error, no more than there are characters, and then that. A
character that opens a number or a word can be pushed back as well, for a run that reads it again
with those after it. -/
theorem run_protocol {l : Lexicon} (hl : l.Reachable) (source : String) (stream : ByteStream) :
    (∀ (calls : List Call) (answers : List (Option (Except ScanError Token))) (s : Scanner),
      (Scanner.ofStream source l stream).run calls = (answers, s) →
      (s.pull.1 = none ↔ ∃ r, (Call.pull, some r) ∈ calls.zip answers ∧ IsLast r) ∧
      (∀ n, answers.filterMap id ++ s.scans n =
        (Scanner.ofStream source l stream).scans ((answers.filterMap id).length + n)) ∧
      ∃ passed, s.head.Passed stream passed ∧
        ∀ (c : Call) (r : Except ScanError Token) (t : Scanner), s.call c = (some r, t) →
          (∀ e, r = .error e → e.cause ≠ .pushback) ∧
          ∀ token, r = .ok token → token.kind ≠ .endOfInput → token.literal ≠ "" ∧
            ∃ taken, taken ≠ [] ∧ t.head.Passed stream (passed ++ taken)) ∧
    (∃ (ts : List Token) (r : Except ScanError Token) (decoded : List Char),
      (Scanner.ofStream source l stream).scans (ts.length + 1) = ts.map .ok ++ [r] ∧
      (∀ t ∈ ts, t.kind ≠ .endOfInput) ∧ IsLast r ∧
      (Scanner.ofStream source l stream).tokens = r.map (fun t => ts ++ [t]) ∧
      stream.Decodes decoded (Scanner.ofStream source l stream).drain.2.head.reader.stream ∧
      ts.length ≤ decoded.length ∧ decoded.length ≤ stream.size) ∧
    ∀ (h t : Head) (c : Char), h.read = (.ok (some c), t) → ∃ u, t.unread = (.ok (), u) ∧
      ∀ accept : Char → Bool, accept c = true →
        u.run accept [] = (t.advance c).run accept [c] := by
  refine ⟨fun calls answers s hrun => ?_, Scanner.exists_tokens hl.sound source stream,
    fun h t c hr => ?_⟩
  · have hdone := Scanner.done_run_iff (.ofStream source l stream) calls
    have hscans := Scanner.filterMap_run_append_scans (.ofStream source l stream) calls
    obtain ⟨hlexicon, passed, hp⟩ :=
      Scanner.run_passed (s := .ofStream source l stream) hl.sound (.ofStream stream) calls
    rw [hrun] at hdone hscans hlexicon hp
    refine ⟨?_, hscans, passed, hp, ?_⟩
    · rw [Scanner.pull_eq_none_iff, hdone]
      simp [Scanner.ofStream]
    · intro c r t hcall
      have hl' : s.lexicon.Sound := hlexicon ▸ hl.sound
      exact Scanner.result_of_call hl' hp hcall
  · obtain ⟨u, hu, hagain⟩ := Head.exists_unread hr
    exact ⟨u, hu, fun accept hc => Head.run_accept hagain hc⟩

/-- A scan between pulls, and one after the end of input was pulled, which goes on past an end
report as if there had been scans all along. -/
theorem run_protocol_past_end_report : Lexicon.standard.Reachable ∧
    ∃ (answers : List (Option (Except ScanError Token))) (s : Scanner),
      (Scanner.ofStream "m" .standard [.bytes [97, 10], .endReport, .bytes [98]]).run
        [.pull, .scan, .pull, .pull, .scan] = (answers, s) ∧
      answers = [some (.ok ⟨"m", ⟨1, 0⟩, .identifier, "a"⟩),
        some (.ok ⟨"m", ⟨1, 1⟩, .newline, "\\n"⟩), some (.ok ⟨"m", ⟨2, 0⟩, .endOfInput, ""⟩), none,
        some (.ok ⟨"m", ⟨2, 0⟩, .identifier, "b"⟩)] ∧
      s.pull.1 = none ∧
      (∀ n, answers.filterMap id ++ s.scans n = (Scanner.ofStream "m" .standard
        [.bytes [97, 10], .endReport, .bytes [98]]).scans ((answers.filterMap id).length + n)) ∧
      ∃ passed, s.head.Passed [.bytes [97, 10], .endReport, .bytes [98]] passed ∧
        ∀ (c : Call) (r : Except ScanError Token) (t : Scanner), s.call c = (some r, t) →
          (∀ e, r = .error e → e.cause ≠ .pushback) ∧
          ∀ token, r = .ok token → token.kind ≠ .endOfInput → token.literal ≠ "" ∧
            ∃ taken, taken ≠ [] ∧
              t.head.Passed [.bytes [97, 10], .endReport, .bytes [98]] (passed ++ taken) := by
  obtain ⟨hcalls, -, -⟩ :=
    run_protocol .standard "m" [.bytes [97, 10], .endReport, .bytes [98]]
  have hrun := (Prod.eta ((Scanner.ofStream "m" .standard [.bytes [97, 10], .endReport,
    .bytes [98]]).run [.pull, .scan, .pull, .pull, .scan])).symm
  obtain ⟨hpull, hscans, hnext⟩ := hcalls _ _ _ hrun
  refine ⟨.standard, _, _, hrun, by decide +kernel, hpull.mpr ?_, hscans, hnext⟩
  exact ⟨.ok ⟨"m", ⟨2, 0⟩, .endOfInput, ""⟩, by decide +kernel, .endOfInput rfl⟩

end LuScan
