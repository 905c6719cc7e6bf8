import LuScan.Proofs.Grammar.Strings

/-!
The words of a text, found in one pass that knows no lexicon. They are the lexemes that are words,
in their order, and the lexicon only says of which kind each of them is.
-/
namespace LuScan

theorem isWordStart_eq_false_of_isWordPart {c : Char} (h : isWordPart c = false) :
    isWordStart c = false := by
  cases hw : isWordStart c with
  | false => rfl
  | true => simp [isWordPart_of_isWordStart hw] at h

/-- Where a pass over a text stands: outside, in a word that began like this, or in a string. -/
inductive Pass where
  | outside | word (read : List Char) | string
  deriving DecidableEq, Repr

namespace Pass

/-- Where a pass stands after a character that no word has taken. -/
def past (c : Char) : Pass := if c = quoteMark then .string else .outside

/-- The words that a pass completes. A digit goes on with a word but starts none, and a string ends
with the next quote mark. -/
def words : Pass → List Char → List String
  | .outside, [] | .string, [] => []
  | .word read, [] => [String.ofList read]
  | .outside, c :: cs => if isWordStart c then words (.word [c]) cs else words (past c) cs
  | .word read, c :: cs =>
    if isWordPart c then words (.word (read ++ [c])) cs
    else String.ofList read :: words (past c) cs
  | .string, c :: cs => if c = quoteMark then words .outside cs else words .string cs

/-- The character leads neither into a word nor into a string. -/
def Idle (c : Char) : Prop := isWordStart c = false ∧ c ≠ quoteMark

theorem idle_newline : Idle '\n' :=
  ⟨isWordStart_eq_false_of_isWordPart (isWordPart_eq_false_of_isBlank isBlank_newline), by decide⟩

theorem idle_of_isGap {c : Char} (h : isGap c = true) : Idle c :=
  ⟨isWordStart_eq_false_of_isWordPart (isWordPart_eq_false_of_isGap h), ne_quoteMark_of_isGap h⟩

theorem idle_of_isDigit {c : Char} (h : isDigit c = true) : Idle c := by
  refine ⟨isWordStart_eq_false_of_isDigit h, ?_⟩
  rintro rfl
  have hpart := isWordPart_of_isDigit h
  rw [isWordPart_quoteMark] at hpart
  cases hpart

theorem idle_of_isFree {c : Char} (h : Lexicon.isFree c = true) : Idle c := by
  obtain ⟨-, hstart, -, hne⟩ := Lexicon.isFree_iff.mp h
  exact ⟨hstart, hne⟩

theorem words_outside_append {xs : List Char} (h : ∀ c ∈ xs, Idle c) (rest : List Char) :
    words .outside (xs ++ rest) = words .outside rest := by
  induction xs with
  | nil => rfl
  | cons x xs ih =>
    rw [List.forall_mem_cons] at h
    rw [List.cons_append, words, h.1.1, if_neg Bool.false_ne_true, past, if_neg h.1.2, ih h.2]

theorem words_quoteMark (rest : List Char) :
    words .outside (quoteMark :: rest) = words .string rest := by
  have hstart := isWordStart_eq_false_of_isWordPart isWordPart_quoteMark
  rw [words, hstart, if_neg Bool.false_ne_true, past, if_pos rfl]

theorem words_string_append {body : List Char} (h : quoteMark ∉ body) (rest : List Char) :
    words .string (body ++ rest) = words .string rest := by
  induction body with
  | nil => rfl
  | cons x body ih =>
    rw [List.mem_cons, not_or] at h
    rw [List.cons_append, words, if_neg (Ne.symm h.1), ih h.2]

/-- A word runs as far as its class does. -/
theorem words_word_append {cs rest : List Char} (h : ∀ c ∈ cs, isWordPart c = true)
    (hr : Ends isWordPart rest) (read : List Char) :
    words (.word read) (cs ++ rest) = String.ofList (read ++ cs) :: words .outside rest := by
  induction cs generalizing read with
  | nil =>
    rw [List.nil_append, List.append_nil]
    cases rest with
    | nil => rfl
    | cons c rest =>
      have hp := ends_cons.mp hr
      rw [words, words, hp, isWordStart_eq_false_of_isWordPart hp, if_neg Bool.false_ne_true,
        if_neg Bool.false_ne_true]
  | cons c cs ih =>
    rw [List.forall_mem_cons] at h
    rw [List.cons_append, words, if_pos h.1, ih h.2, List.append_assoc, List.singleton_append]

end Pass

variable {l : Lexicon}

/-- Over a lexeme the pass completes one word or none. -/
theorem Lexeme.words_append (hl : l.Sound) {x r : List Char} {k : Kind} (h : Lexeme l x k r) :
    Pass.words .outside (x ++ r) =
      (if k.isWord = true then [String.ofList x] else []) ++ Pass.words .outside r := by
  cases h with
  | newline => exact Pass.words_outside_append (by simpa using Pass.idle_newline) r
  | symbol hs =>
    obtain ⟨hfree, hsymbol⟩ := hl.symbol hs
    rw [Pass.words_outside_append (by simpa using Pass.idle_of_isFree hfree),
      Kind.isWord_eq_false_of_isSymbol hsymbol]
    rfl
  | integer hc hcs =>
    refine Pass.words_outside_append ?_ r
    rw [List.forall_mem_cons]
    exact ⟨Pass.idle_of_isDigit hc, fun d hd => Pass.idle_of_isDigit (hcs d hd)⟩
  | word hc hcs hr =>
    rw [if_pos (hl.isWord_wordKind _), List.cons_append, Pass.words, if_pos hc,
      Pass.words_word_append hcs hr]
    rfl
  | @text body _ hb =>
    rw [List.cons_append, Pass.words_quoteMark, List.append_assoc, Pass.words_string_append hb,
      List.singleton_append, Pass.words, if_pos rfl]
    rfl
  | @openText body hb =>
    rw [List.append_nil, Pass.words_quoteMark, ← List.append_nil body,
      Pass.words_string_append hb]
    rfl
  | stray hc =>
    rw [Pass.words_outside_append (by simpa using Pass.idle_of_isFree hc)]
    rfl

/-- The words of a text that is cut are those of its lexemes that have the kind of a word. -/
theorem words_spell (hl : l.Sound) {tail : List Char} {segments : List Segment}
    (hf : Fits l tail segments) :
    Pass.words .outside (spell segments tail) =
      (segments.filter (·.kind.isWord)).map (String.ofList ·.lexeme) := by
  induction segments with
  | nil =>
    have hnil := Pass.words_outside_append (fun c hc => Pass.idle_of_isGap (hf c hc)) []
    rwa [List.append_nil] at hnil
  | cons s segments ih =>
    obtain ⟨hg, hx, hf⟩ := hf
    rw [spell_cons, Pass.words_outside_append fun c hc => Pass.idle_of_isGap (hg c hc),
      hx.words_append hl, ih hf, List.filter_cons]
    split <;> rfl

/-- What is a word has its kind from the lexicon. -/
theorem Lexeme.kind_eq_wordKind (hl : l.Sound) {x r : List Char} {k : Kind} (h : Lexeme l x k r)
    (hk : k.isWord = true) : k = l.wordKind (String.ofList x) := by
  cases h with
  | word => rfl
  | symbol hs => simp [Kind.isWord_eq_false_of_isSymbol (hl.symbol hs).2] at hk
  | newline | integer | text | openText | stray => cases hk

theorem kind_eq_wordKind_of_fits (hl : l.Sound) {tail : List Char} {segments : List Segment}
    (hf : Fits l tail segments) :
    ∀ s ∈ segments, s.kind.isWord = true → s.kind = l.wordKind (String.ofList s.lexeme) := by
  induction segments with
  | nil => simp
  | cons s segments ih =>
    obtain ⟨-, hx, hf⟩ := hf
    rw [List.forall_mem_cons]
    exact ⟨hx.kind_eq_wordKind hl, ih hf⟩

/-- The lexicon gives the words of a text the kinds that they are scanned with. -/
theorem map_wordKind_words (hl : l.Sound) {tail : List Char} {segments : List Segment}
    (hf : Fits l tail segments) :
    (Pass.words .outside (spell segments tail)).map l.wordKind =
      (segments.map Segment.kind).filter Kind.isWord := by
  rw [words_spell hl hf, List.filter_map, List.map_map]
  apply List.map_congr_left
  intro s hs
  obtain ⟨hmem, hw⟩ := List.mem_filter.mp hs
  exact (kind_eq_wordKind_of_fits hl hf s hmem hw).symm

/-- Digits start no word, and what a string holds is none. -/
example : Pass.words .outside "5int x5int \"int\" a_1".toList = ["int", "x5int", "a_1"] := by
  decide +kernel

end LuScan
