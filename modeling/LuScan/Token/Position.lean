/-! Places in a source: lines count from one, columns count characters from zero. -/
namespace LuScan

structure Position where
  line : Nat := 1
  column : Nat := 0
  deriving DecidableEq, Repr

namespace Position

def start : Position := {}

/-- The place after a character. -/
def advance (p : Position) (c : Char) : Position :=
  if c = '\n' then ⟨p.line + 1, 0⟩ else ⟨p.line, p.column + 1⟩

@[simp] theorem advance_newline (p : Position) : p.advance '\n' = ⟨p.line + 1, 0⟩ := rfl

theorem advance_of_ne {p : Position} {c : Char} (h : c ≠ '\n') :
    p.advance c = ⟨p.line, p.column + 1⟩ := if_neg h

/-- Line by line, then column by column. -/
def before (p q : Position) : Prop :=
  p.line < q.line ∨ p.line = q.line ∧ p.column < q.column

instance : LT Position := ⟨before⟩

instance : LE Position := ⟨fun p q => p < q ∨ p = q⟩

theorem lt_iff {p q : Position} :
    p < q ↔ p.line < q.line ∨ p.line = q.line ∧ p.column < q.column := Iff.rfl

theorem le_iff {p q : Position} : p ≤ q ↔ p < q ∨ p = q := Iff.rfl

instance (p q : Position) : Decidable (p < q) :=
  inferInstanceAs (Decidable (p.line < q.line ∨ p.line = q.line ∧ p.column < q.column))

instance (p q : Position) : Decidable (p ≤ q) :=
  inferInstanceAs (Decidable (p < q ∨ p = q))

theorem lt_advance (p : Position) (c : Char) : p < p.advance c := by
  unfold advance
  split <;> simp [lt_iff]

def text (p : Position) : String := p.line.repr ++ ":" ++ p.column.repr

end Position
end LuScan
