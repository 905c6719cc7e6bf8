import LuScan.Stream.Reader

/-!
The characters that a stream has been decoded to so far. Reads that report an end or a failure give
none, and do not stop the reads after them.
-/
namespace LuScan.ByteStream

/-- The character that was read, if one was. -/
def taken : Except ReadError (Option Char) → List Char
  | .ok read => read.toList
  | .error _ => []

theorem length_taken (r : Except ReadError (Option Char)) : (taken r).length = got r := by
  cases r <;> rfl

/-- Some reads, one after another, have given the characters `cs` in all and left the stream `t`. -/
inductive Decodes : ByteStream → List Char → ByteStream → Prop
  | nil {s : ByteStream} : Decodes s [] s
  | read {s t u : ByteStream} {r : Except ReadError (Option Char)} {cs : List Char} :
      s.char = (r, u) → Decodes u cs t → Decodes s (taken r ++ cs) t

namespace Decodes

variable {s t u : ByteStream} {cs ds : List Char} {r : Except ReadError (Option Char)}

theorem append (h : Decodes s cs t) (h' : Decodes t ds u) : Decodes s (cs ++ ds) u := by
  induction h with
  | nil => exact h'
  | read hs _ ih =>
    rw [List.append_assoc]
    exact .read hs (ih h')

/-- One more read. -/
theorem step (h : Decodes s cs t) (hr : t.char = (r, u)) : Decodes s (cs ++ taken r) u := by
  have hlast : Decodes t (taken r ++ []) u := .read hr .nil
  rw [List.append_nil] at hlast
  exact h.append hlast

/-- Every character costs at least a byte. -/
theorem size_le (h : Decodes s cs t) : t.size + cs.length ≤ s.size := by
  induction h with
  | nil => exact Nat.le_refl _
  | @read s t u r cs hs _ ih =>
    have hchar := size_char_le s
    rw [hs, ← length_taken] at hchar
    rw [List.length_append]
    dsimp only at hchar
    omega

theorem eq_nil (h : Decodes s cs s) : cs = [] := by
  have hsize := h.size_le
  apply List.eq_nil_of_length_eq_zero
  omega

/-- Where the reads have come to tells which characters they have given. -/
theorem unique (h : Decodes s cs t) (h' : Decodes s ds t) : cs = ds := by
  induction h generalizing ds with
  | nil => exact h'.eq_nil.symm
  | read hs htail ih =>
    cases h' with
    | nil => exact (Decodes.read hs htail).eq_nil
    | read hs' htail' =>
      obtain ⟨rfl, rfl⟩ := Prod.mk.inj (hs.symm.trans hs')
      rw [ih htail']

end Decodes
end LuScan.ByteStream
