import LuScan.Proofs.Lexicon.History
import LuScan.Proofs.Scan.Agreement
import LuScan.Proofs.Scan.Tokens

/-!
Spellings of entries. A lexicon refuses as the spelling of a word or a symbol exactly what does not
scan as one token of its own, and what it accepts scans as a token of the kind that was entered.
-/
namespace LuScan

namespace Lexicon

variable {l m : Lexicon} {e : Entry} {c : Char} {w : String} {k : Kind} {t : Token}

/-- The text as a whole is scanned as this one token. -/
def ScansAs (l : Lexicon) (source text : String) (t : Token) : Prop :=
  ∃ p, l.scanText source text = .ok [t, Token.final source p]

/-- The text that an entry gives a kind. -/
def Entry.spelling : Entry → String
  | .word _ w _ => w
  | .symbol c _ => String.singleton c

theorem Entry.WellFormed.kind_ne_newline (hw : e.WellFormed) : e.kind ≠ .newline := by
  intro hnewline
  cases e with
  | word table w k =>
    obtain rfl : k = .newline := hnewline
    have hcategory : Kind.newline.category = table.category := hw.2
    cases table <;> cases hcategory
  | symbol c k => exact hw.2.2.2.2 hnewline

theorem addWord_ne_invalidWord_iff {table : WordTable} :
    (∀ v, l.addWord table w k ≠ .error (.invalidWord v)) ↔ isIdentifier w = true := by
  unfold addWord
  cases isIdentifier w with
  | false => simp
  | true =>
    simp only [Bool.not_true, Bool.false_eq_true, if_false, iff_true]
    intro v
    split
    · simp
    · split <;> simp

theorem addSymbol_ne_invalidSymbol_iff :
    (∀ d, l.addSymbol c k ≠ .error (.invalidSymbol d)) ↔ isFree c = true := by
  unfold addSymbol
  cases isFree c with
  | false => simp
  | true =>
    simp only [Bool.not_true, Bool.false_eq_true, if_false, iff_true]
    intro d
    split
    · simp
    · split <;> simp

end Lexicon

variable {l m : Lexicon} {c : Char} {x r : List Char} {k : Kind} {t : Token} {source text : String}

namespace Lexeme

theorem of_isIdentifier {w : String} (hw : isIdentifier w = true) :
    Lexeme l w.toList (l.wordKind w) [] := by
  unfold isIdentifier at hw
  split at hw
  · cases hw
  next c cs hlist =>
    obtain ⟨hc, hcs⟩ := Bool.and_eq_true_iff.mp hw
    have hword : Lexeme l (c :: cs) (l.wordKind (String.ofList (c :: cs))) [] :=
      .word hc (List.all_eq_true.mp hcs) (ends_nil _)
    rwa [← hlist, String.ofList_toList] at hword

theorem of_isFree (hc : Lexicon.isFree c = true) : Lexeme l [c] (l.symbolKind c) r := by
  unfold Lexicon.symbolKind
  cases hs : l.symbol? c with
  | none => exact .stray hc hs
  | some k => exact .symbol hs

theorem isIdentifier_of_isWord (hl : l.Sound) (h : Lexeme l x k r) (hk : k.isWord = true) :
    isIdentifier (String.ofList x) = true := by
  cases h with
  | symbol hs => simp [Kind.isWord_eq_false_of_isSymbol (hl.symbol hs).2] at hk
  | word hc hcs => rw [isIdentifier_ofList_cons, hc, List.all_eq_true.mpr hcs, Bool.and_self]
  | newline | integer | text | openText | stray => exact absurd hk (by decide)

/-- A single character that is illegal is free, unless it opens a string. -/
theorem isFree_of_illegal (hl : l.Sound) (h : Lexeme l x k r) (hk : k = .illegal)
    (hx : x = [c]) (hc : c ≠ quoteMark) : Lexicon.isFree c = true := by
  cases h with
  | symbol hs =>
    obtain rfl := List.singleton_inj.mp hx
    exact (hl.symbol hs).1
  | word => exact absurd hk (Kind.ne_of_isWord (hl.isWord_wordKind _) rfl)
  | openText => exact absurd (List.cons.inj hx).1.symm hc
  | stray hfree =>
    obtain rfl := List.singleton_inj.mp hx
    exact hfree
  | newline | integer | text => cases hk

end Lexeme

namespace Lexicon

/-- What scans as one token is one lexeme between two gaps. -/
theorem scansAs_iff (hl : l.Sound) : l.ScansAs source text t ↔
    ∃ s tail, Segmentation.Cuts ⟨[s], tail⟩ l text.toList ∧ t = s.token source .start := by
  constructor
  · rintro ⟨p, hscan⟩
    obtain ⟨⟨segments, tail⟩, hd, -⟩ := existsUnique_cuts hl text.toList
    rw [scanText_of_cuts hl source hd, Except.ok.injEq] at hscan
    have htokens : tokensFrom source .start segments = [t] :=
      (List.append_inj' (show _ ++ _ = [t] ++ _ from hscan) rfl).1
    match segments with
    | [] => cases htokens
    | [s] => exact ⟨s, tail, hd, (List.cons.inj htokens).1.symm⟩
    | _ :: _ :: _ => cases htokens
  · rintro ⟨s, tail, hd, rfl⟩
    exact ⟨_, scanText_of_cuts hl source hd⟩

/-- A text that is a lexeme is scanned as one token, at the start. -/
theorem scansAs_of_lexeme (hl : l.Sound) (hx : Lexeme l text.toList k []) (hk : k ≠ .newline) :
    l.ScansAs source text ⟨source, .start, k, text⟩ := by
  have hcut : Segmentation.Cuts ⟨[⟨[], text.toList, k⟩], []⟩ l text.toList := by
    constructor
    · simp
    · exact ⟨by simp, hx, by simp [Fits]⟩
  rw [scansAs_iff hl]
  refine ⟨_, _, hcut, ?_⟩
  simp [Segment.token, Segment.literal, Kind.literal_of_ne hk]

/-- The lexeme of a single token that is no line feed is its literal. -/
theorem exists_lexeme_of_scansAs (hl : l.Sound) (h : l.ScansAs source text t)
    (hk : t.kind ≠ .newline) : ∃ r, Lexeme l t.literal.toList t.kind r := by
  obtain ⟨s, tail, hd, rfl⟩ := (scansAs_iff hl).mp h
  obtain ⟨-, hx, -⟩ := hd.fits
  have hliteral : (s.token source .start).literal = String.ofList s.lexeme :=
    Kind.literal_of_ne hk s.lexeme
  rw [hliteral, String.toList_ofList]
  exact ⟨_, hx⟩

theorem isIdentifier_iff_scansAs (hl : l.Sound) (source w : String) :
    isIdentifier w = true ↔ ∃ t, l.ScansAs source w t ∧ t.pos = .start ∧ t.literal = w ∧
      t.kind.isWord = true := by
  constructor
  · intro hw
    have hkind := hl.isWord_wordKind w
    have hscans : l.ScansAs source w ⟨source, .start, l.wordKind w, w⟩ :=
      scansAs_of_lexeme hl (.of_isIdentifier hw) (Kind.ne_of_isWord hkind rfl)
    exact ⟨_, hscans, rfl, rfl, hkind⟩
  · rintro ⟨t, hscans, -, rfl, hkind⟩
    obtain ⟨r, hx⟩ := exists_lexeme_of_scansAs hl hscans (Kind.ne_of_isWord hkind rfl)
    have hword := hx.isIdentifier_of_isWord hl hkind
    rwa [String.ofList_toList] at hword

theorem isFree_iff_scansAs (hl : l.Sound) (source : String) (c : Char) :
    isFree c = true ↔ c ≠ quoteMark ∧ ∃ t, l.ScansAs source (String.singleton c) t ∧
      t.literal = String.singleton c ∧ (t.kind = .illegal ∨ l.symbol? c = some t.kind) := by
  constructor
  · intro hc
    have hx : Lexeme l (String.singleton c).toList (l.symbolKind c) [] := by
      rw [String.toList_singleton]
      exact .of_isFree hc
    have hnewline : l.symbolKind c ≠ .newline := (hl.symbolKind_ne c).1
    refine ⟨(isFree_iff.mp hc).2.2.2, _, scansAs_of_lexeme hl hx hnewline, rfl, ?_⟩
    unfold symbolKind
    cases hs : l.symbol? c with
    | none => exact .inl rfl
    | some k => exact .inr rfl
  · rintro ⟨hc, t, hscans, hliteral, hkind | hkind⟩
    · have hnewline : t.kind ≠ .newline := by simp [hkind]
      obtain ⟨r, hx⟩ := exists_lexeme_of_scansAs hl hscans hnewline
      rw [hliteral, String.toList_singleton] at hx
      exact hx.isFree_of_illegal hl hkind rfl hc
    · exact (hl.symbol hkind).1

/-- The spelling of an entry that was made is a lexeme of its kind. -/
theorem lexeme_insert (hw : e.WellFormed) (hk : l.kind? e.key = none) :
    Lexeme (l.insert e) e.spelling.toList e.kind [] := by
  have hkind : (l.insert e).kind? e.key = some e.kind := by rw [kind?_insert hk, if_pos rfl]
  cases e with
  | word table w k =>
    have hword : (l.insert (.word table w k)).wordKind w = k := by
      unfold wordKind
      exact congrArg (Option.getD · _) hkind
    have hx : Lexeme (l.insert (.word table w k)) w.toList _ [] := .of_isIdentifier hw.1
    rwa [hword] at hx
  | symbol c k =>
    show Lexeme _ (String.singleton c).toList k []
    rw [String.toList_singleton]
    exact .symbol hkind

end Lexicon

open Lexicon in
/-- Under any lexicon, the words that can be entered are those that scan as one word, and the
characters those that scan as one symbol or as illegal, the quote mark apart. What has been entered
scans as one token of its kind. -/
theorem spelling_iff_scansAs (hl : l.Reachable) (source : String) :
    (∀ (table : WordTable) (w : String) (k : Kind),
      (∀ v, l.addWord table w k ≠ .error (.invalidWord v)) ↔
        ∃ t, l.ScansAs source w t ∧ t.pos = .start ∧ t.literal = w ∧
          (t.kind = .identifier ∨ t.kind.isKeyword = true)) ∧
    (∀ (c : Char) (k : Kind), (∀ d, l.addSymbol c k ≠ .error (.invalidSymbol d)) ↔
      c ≠ quoteMark ∧ ∃ t, l.ScansAs source (String.singleton c) t ∧
        t.literal = String.singleton c ∧ (t.kind = .illegal ∨ l.symbol? c = some t.kind)) ∧
    ∀ (e : Entry) (m : Lexicon), l.add e = .ok m →
      m.ScansAs source e.spelling ⟨source, .start, e.kind, e.spelling⟩ := by
  refine ⟨?_, ?_, ?_⟩
  · intro table w k
    rw [addWord_ne_invalidWord_iff, isIdentifier_iff_scansAs hl.sound source]
    simp [Kind.isWord]
  · intro c k
    rw [addSymbol_ne_invalidSymbol_iff, isFree_iff_scansAs hl.sound source]
  · intro e m hadd
    have hm : m.Sound := (Reachable.add hl hadd).sound
    obtain ⟨hw, hk, rfl⟩ := add_eq_ok_iff.mp hadd
    exact scansAs_of_lexeme hm (lexeme_insert hw hk) hw.kind_ne_newline

/-- A word that digits begin is refused, a character without a meaning is not, and a word with a
digit of another script in it becomes a keyword. -/
theorem spelling_iff_scansAs_of_digits : Lexicon.standard.Reachable ∧
    (¬ ∃ t, Lexicon.standard.ScansAs "m" "3x" t ∧ t.pos = .start ∧ t.literal = "3x" ∧
      (t.kind = .identifier ∨ t.kind.isKeyword = true)) ∧
    (∃ t, Lexicon.standard.ScansAs "m" (String.singleton '$') t ∧
      t.literal = String.singleton '$' ∧
      (t.kind = .illegal ∨ Lexicon.standard.symbol? '$' = some t.kind)) ∧
    ∃ m, Lexicon.standard.add (.word .type "x٣" .intType) = .ok m ∧
      m.ScansAs "m" "x٣" ⟨"m", .start, .intType, "x٣"⟩ := by
  obtain ⟨hwords, hsymbols, hadd⟩ := spelling_iff_scansAs .standard "m"
  have hdigit : Lexicon.standard.addWord .control "3x" .ifWord = .error (.invalidWord "3x") := by
    decide +kernel
  have hfree : Lexicon.isFree '$' = true := by decide +kernel
  have hentry : ∃ m, Lexicon.standard.add (.word .type "x٣" .intType) = .ok m :=
    ⟨_, Lexicon.add_eq_ok_iff.mpr ⟨by decide +kernel, by decide +kernel, rfl⟩⟩
  refine ⟨.standard, ?_, ?_, ?_⟩
  · rw [← hwords .control "3x" .ifWord]
    exact fun h => h "3x" hdigit
  · exact ((hsymbols '$' .plus).mp (Lexicon.addSymbol_ne_invalidSymbol_iff.mpr hfree)).2
  · obtain ⟨m, hm⟩ := hentry
    exact ⟨m, hm, hadd (.word .type "x٣" .intType) m hm⟩

end LuScan
