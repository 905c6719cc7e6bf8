import LuScan.Proofs.Grammar.Strings

/-!
Texts without their gaps. One pass that knows when it is in a string drops the gaps outside of
strings, which leaves the lexemes of the text one after another.
-/
namespace LuScan

/-- One pass over a text, from inside a string or outside. A quote mark leads in and the next one
out again; gaps are dropped outside, and nothing is inside. -/
def strip : Bool → List Char → List Char
  | _, [] => []
  | false, c :: cs => if isGap c then strip false cs else c :: strip (c == quoteMark) cs
  | true, c :: cs => c :: strip (c != quoteMark) cs

@[simp] theorem strip_nil (inside : Bool) : strip inside [] = [] := by
  cases inside <;> rfl

/-- The pass is inside a string exactly when an odd number of quote marks is behind it. -/
theorem strip_append (inside : Bool) (xs ys : List Char) :
    strip inside (xs ++ ys) = strip inside xs ++ strip (insideAfter inside xs) ys := by
  induction xs generalizing inside with
  | nil => simp [insideAfter]
  | cons x xs ih =>
    have hafter : insideAfter inside (x :: xs) = insideAfter (inside != (x == quoteMark)) xs := rfl
    rw [List.cons_append, hafter]
    cases inside with
    | true =>
      rw [strip, strip, ih, Bool.true_bne, List.cons_append]
      rfl
    | false =>
      rw [strip, strip, Bool.false_bne]
      split
      next hx => rw [ih, beq_false_of_ne (ne_quoteMark_of_isGap hx)]
      next => rw [ih, List.cons_append]

theorem strip_of_forall_isGap {xs : List Char} (h : ∀ c ∈ xs, isGap c = true) :
    strip false xs = [] := by
  induction xs with
  | nil => rfl
  | cons x xs ih =>
    rw [List.forall_mem_cons] at h
    rw [strip, if_pos h.1, ih h.2]

theorem strip_of_forall_not_isGap {xs : List Char} (h : ∀ c ∈ xs, isGap c = false)
    (inside : Bool) : strip inside xs = xs := by
  induction xs generalizing inside with
  | nil => simp
  | cons x xs ih =>
    rw [List.forall_mem_cons] at h
    have hx : ¬ isGap x = true := by simp [h.1]
    cases inside with
    | true => rw [strip, ih h.2]
    | false => rw [strip, if_neg hx, ih h.2]

theorem strip_true_of_notMem {xs : List Char} (h : quoteMark ∉ xs) : strip true xs = xs := by
  induction xs with
  | nil => rfl
  | cons x xs ih =>
    rw [List.mem_cons, not_or] at h
    have hx : (x != quoteMark) = true := bne_iff_ne.mpr (Ne.symm h.1)
    rw [strip, hx, ih h.2]

/-- A lexeme is kept as it is. -/
theorem Lexeme.strip_eq {l : Lexicon} (hl : l.Sound) {x r : List Char} {k : Kind}
    (h : Lexeme l x k r) : strip false x = x := by
  by_cases hq : x.head? = some quoteMark
  · have hmark : strip false [quoteMark] = [quoteMark] := by decide +kernel
    have hinside : insideAfter false [quoteMark] = true := rfl
    obtain ⟨body, hb, ⟨rfl, -⟩ | ⟨rfl, -, -⟩⟩ := h.string_cases hl hq
    · rw [← List.singleton_append, strip_append, hmark, hinside, strip_append,
        strip_true_of_notMem hb, insideAfter_of_notMem hb]
      rfl
    · rw [← List.singleton_append, strip_append, hmark, hinside, strip_true_of_notMem hb]
  · apply strip_of_forall_not_isGap
    intro c hc
    exact (h.plain_of_head?_ne hl hq c hc).2

/-- Nothing but the lexemes is left of a text that is cut. -/
theorem strip_spell {l : Lexicon} (hl : l.Sound) {tail : List Char} {segments : List Segment}
    (hf : Fits l tail segments) :
    strip false (spell segments tail) = segments.flatMap Segment.lexeme := by
  induction segments with
  | nil => exact strip_of_forall_isGap hf
  | cons s segments ih =>
    obtain ⟨hg, hx, hf⟩ := hf
    have hgap := quoteMark_notMem_of_forall_isGap hg
    rw [spell_cons, strip_append, strip_of_forall_isGap hg, insideAfter_of_notMem hgap,
      strip_append, hx.strip_eq hl, hx.insideAfter_eq hl, List.flatMap_cons, ← ih hf,
      List.nil_append]
    cases hu : s.kind.isUnclosed s.lexeme with
    | false => rfl
    | true => rw [hx.eq_nil_of_isUnclosed hl hu, strip_nil, strip_nil]

end LuScan
