import LuScan.Token.Position
import Mathlib.Order.Basic

/-!
Positions after several characters, as a count of what a text has, and counted from another place
than the start.
-/
namespace LuScan.Position

/-- The place after some characters. -/
def after (p : Position) (cs : List Char) : Position := cs.foldl advance p

@[simp] theorem after_nil (p : Position) : p.after [] = p := rfl

@[simp] theorem after_cons (p : Position) (c : Char) (cs : List Char) :
    p.after (c :: cs) = (p.advance c).after cs := rfl

@[simp] theorem after_append (p : Position) (xs ys : List Char) :
    p.after (xs ++ ys) = (p.after xs).after ys := List.foldl_append

/-- Within a line, every character is a column. -/
theorem after_of_forall_ne (p : Position) {cs : List Char} (h : ∀ c ∈ cs, c ≠ '\n') :
    p.after cs = ⟨p.line, p.column + cs.length⟩ := by
  induction cs generalizing p with
  | nil => rfl
  | cons c cs ih =>
    rw [List.forall_mem_cons] at h
    rw [after_cons, advance_of_ne h.1, ih _ h.2, List.length_cons, Nat.add_assoc, Nat.add_comm 1]

theorem line_le_after (p : Position) (cs : List Char) : p.line ≤ (p.after cs).line := by
  induction cs generalizing p with
  | nil => exact Nat.le_refl _
  | cons c cs ih =>
    refine Nat.le_trans ?_ (ih (p.advance c))
    unfold advance
    split
    · exact Nat.le_succ _
    · exact Nat.le_refl _

theorem le_iff_lex {p q : Position} :
    p ≤ q ↔ p.line < q.line ∨ p.line = q.line ∧ p.column ≤ q.column := by
  cases p
  cases q
  simp only [le_iff, lt_iff, mk.injEq]
  omega

instance : Preorder Position where
  le_refl p := .inr rfl
  le_trans p q r hp hq := by
    rw [le_iff_lex] at *
    omega
  lt_iff_le_not_ge p q := by
    rw [le_iff_lex, le_iff_lex, lt_iff]
    omega

theorem le_after (p : Position) (cs : List Char) : p ≤ p.after cs := by
  induction cs generalizing p with
  | nil => exact le_refl p
  | cons c cs ih => exact (lt_advance p c).le.trans (ih (p.advance c))

theorem lt_after (p : Position) {cs : List Char} (h : cs ≠ []) : p < p.after cs := by
  cases cs with
  | nil => exact absurd rfl h
  | cons c cs => exact (lt_advance p c).trans_le (le_after (p.advance c) cs)

/-- The place at the end of a text: one line more than it has line feeds, and a column for every
character after the last of them. -/
def ofText (cs : List Char) : Position where
  line := cs.count '\n' + 1
  column := (cs.reverse.takeWhile (· != '\n')).length

theorem ofText_concat (cs : List Char) (c : Char) :
    ofText (cs ++ [c]) = (ofText cs).advance c := by
  by_cases hc : c = '\n'
  · subst hc
    simp [ofText]
  · rw [advance_of_ne hc]
    simp [ofText, hc]

/-- Advancing character by character is counting. -/
theorem ofText_append (xs cs : List Char) : ofText (xs ++ cs) = (ofText xs).after cs := by
  induction cs generalizing xs with
  | nil => simp
  | cons c cs ih => rw [after_cons, ← ofText_concat, ← ih, List.append_assoc, List.singleton_append]

theorem ofText_eq_after (cs : List Char) : ofText cs = start.after cs := ofText_append [] cs

/-- A place counted from the start, for a source that itself begins at `e`. -/
def rebase (e p : Position) : Position where
  line := p.line + e.line - 1
  column := if p.line = 1 then p.column + e.column else p.column

theorem rebase_start (e : Position) : rebase e .start = e := by
  simp [rebase, start]

theorem rebase_advance (e : Position) {p : Position} (c : Char) (hp : 1 ≤ p.line) :
    rebase e (p.advance c) = (rebase e p).advance c := by
  by_cases hc : c = '\n'
  · subst hc
    have hne : p.line + 1 ≠ 1 := by omega
    rw [advance_newline, advance_newline, rebase, if_neg hne, mk.injEq]
    refine ⟨?_, rfl⟩
    simp only [rebase]
    omega
  · simp only [advance_of_ne hc, rebase, mk.injEq, true_and]
    split <;> omega

theorem rebase_after (e : Position) {p : Position} (cs : List Char) (hp : 1 ≤ p.line) :
    rebase e (p.after cs) = (rebase e p).after cs := by
  induction cs generalizing p with
  | nil => rfl
  | cons c cs ih =>
    have hq : 1 ≤ (p.advance c).line := Nat.le_trans hp (line_le_after p [c])
    rw [after_cons, after_cons, ih hq, rebase_advance e c hp]

end LuScan.Position
