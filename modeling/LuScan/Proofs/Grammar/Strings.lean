import LuScan.Proofs.Grammar.Segmentation

/-!
The characters of a text that lie in string literals. The lexicon has no say in this: quote marks
alone decide, each of them opening or closing a string.
-/
namespace LuScan

/-- A string literal, closed or not: no other lexeme begins with a quote mark. -/
def Segment.isString (s : Segment) : Bool := s.lexeme.head? == some quoteMark

/-- For each character of a text that is cut, whether it lies in a string literal. -/
def stringMask (tail : List Char) : List Segment → List Bool
  | [] => List.replicate tail.length false
  | s :: segments => List.replicate s.gap.length false ++
      (List.replicate s.lexeme.length s.isString ++ stringMask tail segments)

/-- The character at an index of the text lies in a string literal. -/
def Lexicon.InString (l : Lexicon) (text : List Char) (i : Nat) : Prop :=
  ∃ d : Segmentation, d.Cuts l text ∧ (stringMask d.tail d.segments)[i]? = some true

/-- The same in one pass over the characters, from inside a string or outside. -/
def inStrings : Bool → List Char → List Bool
  | _, [] => []
  | inside, c :: cs => (inside || c == quoteMark) :: inStrings (inside != (c == quoteMark)) cs

/-- Whether a string is open after some characters. -/
def insideAfter (inside : Bool) (cs : List Char) : Bool :=
  cs.foldl (fun b c => b != (c == quoteMark)) inside

theorem length_inStrings (inside : Bool) (cs : List Char) :
    (inStrings inside cs).length = cs.length := by
  induction cs generalizing inside with
  | nil => rfl
  | cons c cs ih => simp [inStrings, ih]

theorem inStrings_append (inside : Bool) (xs ys : List Char) :
    inStrings inside (xs ++ ys) =
      inStrings inside xs ++ inStrings (insideAfter inside xs) ys := by
  induction xs generalizing inside with
  | nil => rfl
  | cons x xs ih => simp [inStrings, ih, insideAfter]

theorem insideAfter_append (inside : Bool) (xs ys : List Char) :
    insideAfter inside (xs ++ ys) = insideAfter (insideAfter inside xs) ys :=
  List.foldl_append

theorem insideAfter_of_notMem {xs : List Char} (h : quoteMark ∉ xs) (inside : Bool) :
    insideAfter inside xs = inside := by
  induction xs generalizing inside with
  | nil => rfl
  | cons x xs ih =>
    rw [List.mem_cons, not_or] at h
    have hx : (x == quoteMark) = false := beq_false_of_ne (Ne.symm h.1)
    simp only [insideAfter, List.foldl_cons, hx, Bool.bne_false]
    exact ih h.2 inside

theorem inStrings_of_notMem {xs : List Char} (h : quoteMark ∉ xs) (inside : Bool) :
    inStrings inside xs = List.replicate xs.length inside := by
  induction xs generalizing inside with
  | nil => rfl
  | cons x xs ih =>
    rw [List.mem_cons, not_or] at h
    have hx : (x == quoteMark) = false := beq_false_of_ne (Ne.symm h.1)
    simp [inStrings, hx, ih h.2, List.replicate_succ]

theorem ne_quoteMark_of_isGap {c : Char} (h : isGap c = true) : c ≠ quoteMark := by
  rintro rfl
  exact absurd h (by decide +kernel)

theorem quoteMark_notMem_of_forall_isGap {xs : List Char} (h : ∀ c ∈ xs, isGap c = true) :
    quoteMark ∉ xs := fun hm => ne_quoteMark_of_isGap (h _ hm) rfl

namespace Lexeme

variable {l : Lexicon} {x r : List Char} {k : Kind}

theorem quoteMark_notMem (hl : l.Sound) (h : Lexeme l x k r) (hq : x.head? ≠ some quoteMark) :
    quoteMark ∉ x := fun hm => (h.plain_of_head?_ne hl hq _ hm).1 rfl

/-- A lexeme is in a string from its first character to its last, or not at all. -/
theorem inStrings_eq (hl : l.Sound) (h : Lexeme l x k r) :
    inStrings false x = List.replicate x.length (x.head? == some quoteMark) := by
  by_cases hq : x.head? = some quoteMark
  · obtain ⟨body, hb, ⟨rfl, -⟩ | ⟨rfl, -, -⟩⟩ := h.string_cases hl hq
    · simp [inStrings, inStrings_append, inStrings_of_notMem hb, insideAfter_of_notMem hb,
        List.replicate_succ, ← List.replicate_succ']
    · simp [inStrings, inStrings_of_notMem hb, List.replicate_succ]
  · rw [inStrings_of_notMem (h.quoteMark_notMem hl hq), beq_false_of_ne hq]

/-- A string is open after a lexeme only when the lexeme is one that is not closed. -/
theorem insideAfter_eq (hl : l.Sound) (h : Lexeme l x k r) :
    insideAfter false x = k.isUnclosed x := by
  by_cases hq : x.head? = some quoteMark
  · obtain ⟨body, hb, ⟨rfl, rfl⟩ | ⟨rfl, rfl, -⟩⟩ := h.string_cases hl hq
    · have ho := insideAfter_of_notMem hb true
      simp_all [insideAfter, Kind.isUnclosed]
    · exact insideAfter_of_notMem hb true
  · rw [insideAfter_of_notMem (h.quoteMark_notMem hl hq), Kind.isUnclosed, beq_false_of_ne hq,
      Bool.and_false]

theorem eq_nil_of_isUnclosed (hl : l.Sound) (h : Lexeme l x k r)
    (hu : k.isUnclosed x = true) : r = [] := by
  simp only [Kind.isUnclosed, Bool.and_eq_true, beq_iff_eq] at hu
  obtain ⟨body, hb, ⟨-, rfl⟩ | ⟨-, -, hr⟩⟩ := h.string_cases hl hu.2
  · cases hu.1
  · exact hr

end Lexeme

variable {l : Lexicon} {tail : List Char} {segments : List Segment}

/-- Counting quote marks finds the string literals of a text that is cut. -/
theorem inStrings_spell (hl : l.Sound) (hf : Fits l tail segments) :
    inStrings false (spell segments tail) = stringMask tail segments := by
  induction segments with
  | nil => exact inStrings_of_notMem (quoteMark_notMem_of_forall_isGap hf) false
  | cons s segments ih =>
    obtain ⟨hg, hx, hf⟩ := hf
    have hgap := quoteMark_notMem_of_forall_isGap hg
    rw [spell_cons, stringMask, inStrings_append, inStrings_append, inStrings_of_notMem hgap,
      insideAfter_of_notMem hgap, hx.inStrings_eq hl, hx.insideAfter_eq hl, ← ih hf]
    cases hu : s.kind.isUnclosed s.lexeme with
    | false => rfl
    | true =>
      rw [hx.eq_nil_of_isUnclosed hl hu]
      rfl

theorem inString_iff_of_cuts (hl : l.Sound) {d : Segmentation} {text : List Char}
    (hd : d.Cuts l text) (i : Nat) :
    l.InString text i ↔ (stringMask d.tail d.segments)[i]? = some true := by
  constructor
  · rintro ⟨d', hd', hi⟩
    obtain ⟨hs, ht⟩ := fits_unique hl hd.fits hd'.fits (hd.spell_eq.trans hd'.spell_eq.symm)
    rwa [hs, ht]
  · intro hi
    exact ⟨d, hd, hi⟩

/-- Whether a character lies in a string literal can be told without the lexicon. -/
theorem inString_iff_inStrings (hl : l.Sound) (text : List Char) (i : Nat) :
    l.InString text i ↔ (inStrings false text)[i]? = some true := by
  obtain ⟨d, hd, -⟩ := existsUnique_cuts hl text
  rw [inString_iff_of_cuts hl hd, ← inStrings_spell hl hd.fits, hd.spell_eq]

theorem insideAfter_of_not_inString (hl : l.Sound) {p q : List Char} {c : Char}
    (hc : c ≠ quoteMark) (h : ¬ l.InString (p ++ c :: q) p.length) :
    insideAfter false p = false := by
  rw [inString_iff_inStrings hl, inStrings_append, ← length_inStrings false p,
    List.getElem?_append_right (Nat.le_refl _), Nat.sub_self] at h
  simpa [inStrings, beq_false_of_ne hc] using h

end LuScan
