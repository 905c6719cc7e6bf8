/-! Inclusive ranges of code points, and membership of a character in a table of them. -/
namespace LuScan

structure CodeRange where
  first : Nat
  last : Nat
  deriving DecidableEq, Repr

namespace CodeRange

def contains (r : CodeRange) (code : Nat) : Bool :=
  decide (r.first ≤ code) && decide (code ≤ r.last)

@[simp] theorem contains_iff {r : CodeRange} {code : Nat} :
    r.contains code = true ↔ r.first ≤ code ∧ code ≤ r.last := by
  simp [contains]

/-- No code point lies in both ranges. -/
def apart (r s : CodeRange) : Bool :=
  Nat.blt r.last s.first || Nat.blt s.last r.first

theorem not_contains_of_apart {r s : CodeRange} {code : Nat}
    (h : r.apart s = true) (hr : r.contains code = true) : s.contains code = false := by
  simp only [apart, Bool.or_eq_true, Nat.blt_eq] at h
  rw [contains_iff] at hr
  rw [Bool.eq_false_iff, ne_eq, contains_iff]
  omega

end CodeRange

/-- The character's code point lies in one of the ranges. -/
def inRanges (table : List CodeRange) (c : Char) : Bool :=
  table.any (·.contains c.toNat)

/-- Tables whose ranges are pairwise apart share no character. -/
theorem inRanges_eq_false_of_apart {table other : List CodeRange} {c : Char}
    (h : table.all (fun r => other.all r.apart) = true) (hc : inRanges table c = true) :
    inRanges other c = false := by
  rw [List.all_eq_true] at h
  obtain ⟨r, hr, hrc⟩ := List.any_eq_true.mp hc
  refine List.any_eq_false.mpr fun s hs => ?_
  have hrs := List.all_eq_true.mp (h r hr) s hs
  simp [CodeRange.not_contains_of_apart hrs hrc]

end LuScan
