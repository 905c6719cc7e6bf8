import LuScan.Text.Utf8
import Mathlib.Tactic.SplitIfs

/-! The bytes of a character, by number, and what is read back from them. -/
namespace LuScan.Utf8

/-- The forms of an encoding: the code points that have it, and the number of each byte. -/
inductive Form (n : Nat) : List UInt8 → Prop
  | one {a : UInt8} : n ≤ 0x7F → a.toNat = n → Form n [a]
  | two {a b : UInt8} : 0x80 ≤ n → n ≤ 0x7FF →
      a.toNat = 0xC0 + n / 64 → b.toNat = 0x80 + n % 64 → Form n [a, b]
  | three {a b c : UInt8} : 0x800 ≤ n → n ≤ 0xFFFF →
      a.toNat = 0xE0 + n / 4096 → b.toNat = 0x80 + n / 64 % 64 → c.toNat = 0x80 + n % 64 →
      Form n [a, b, c]
  | four {a b c d : UInt8} : 0x10000 ≤ n → n ≤ 0x10FFFF →
      a.toNat = 0xF0 + n / 262144 → b.toNat = 0x80 + n / 4096 % 64 →
      c.toNat = 0x80 + n / 64 % 64 → d.toNat = 0x80 + n % 64 → Form n [a, b, c, d]

theorem toNat_scalar (c : Char) : c.toNat < 0xD800 ∨ 0xDFFF < c.toNat ∧ c.toNat < 0x110000 := by
  have h := c.valid
  simp only [UInt32.isValidChar, Nat.isValidChar] at h
  exact h

theorem form_utf8EncodeChar (c : Char) : Form c.toNat (String.utf8EncodeChar c) := by
  have hc := toNat_scalar c
  have hv : c.val.toNat = c.toNat := rfl
  unfold String.utf8EncodeChar
  simp only [hv]
  split
  · exact .one (by omega) (by simp; omega)
  split
  · exact .two (by omega) (by omega) (by simp; omega) (by simp; omega)
  split
  · exact .three (by omega) (by omega) (by simp; omega) (by simp; omega) (by simp; omega)
  · exact .four (by omega) (by omega) (by simp; omega) (by simp; omega) (by simp; omega)
      (by simp; omega)

theorem width?_of_form {n : Nat} {lead : UInt8} {tail : List UInt8} (h : Form n (lead :: tail)) :
    width? lead = some (tail.length + 1) := by
  simp only [width?, UInt8.le_iff_toNat_le, UInt8.reduceToNat]
  cases h with
  | one hn ha => rw [if_pos (by omega)]; rfl
  | two h₁ h₂ ha hb => rw [if_neg (by omega), if_pos (by omega)]; rfl
  | three h₁ h₂ ha hb hc => rw [if_neg (by omega), if_neg (by omega), if_pos (by omega)]; rfl
  | four h₁ h₂ ha hb hc hd =>
    rw [if_neg (by omega), if_neg (by omega), if_neg (by omega), if_pos (by omega)]; rfl

/-- The second byte of a character, surrogates excluded, is in the range of its lead byte. -/
theorem second_contains {n : Nat} {lead b : UInt8} {tail : List UInt8}
    (h : Form n (lead :: b :: tail)) (hn : n < 0xD800 ∨ 0xDFFF < n) :
    (second lead).contains b.toNat = true := by
  simp only [second, ← UInt8.toNat_inj, UInt8.reduceToNat]
  cases h with
  | two h₁ h₂ ha hb =>
    rw [if_neg (by omega), if_neg (by omega), if_neg (by omega), if_neg (by omega)]
    simp [continuation]; omega
  | three h₁ h₂ ha hb hc =>
    rw [if_neg (c := lead.toNat = 240) (by omega), if_neg (c := lead.toNat = 244) (by omega)]
    split_ifs <;> simp [continuation] <;> omega
  | four h₁ h₂ ha hb hc hd =>
    rw [if_neg (by omega), if_neg (by omega)]
    split_ifs <;> simp [continuation] <;> omega

theorem fitting_continuation {bs : List UInt8}
    (h : ∀ b ∈ bs, continuation.contains b.toNat = true) :
    fitting continuation bs = bs.length := by
  induction bs with
  | nil => rfl
  | cons b bs ih =>
    rw [List.forall_mem_cons] at h
    simp [fitting, h.1, ih h.2]

theorem fitting_of_form {n : Nat} {lead : UInt8} {tail : List UInt8} (h : Form n (lead :: tail))
    (hn : n < 0xD800 ∨ 0xDFFF < n) : fitting (second lead) tail = tail.length := by
  cases tail with
  | nil => rfl
  | cons b tail =>
    have hs := second_contains h hn
    have ht : ∀ d ∈ tail, continuation.contains d.toNat = true := by
      simp only [CodeRange.contains_iff, continuation]
      cases h with
      | two => simp
      | three h₁ h₂ ha hb hc => simp; omega
      | four h₁ h₂ ha hb hc hd => simp; omega
    simp [fitting, hs, fitting_continuation ht]

theorem value_of_form {n : Nat} {lead : UInt8} {tail : List UInt8} (h : Form n (lead :: tail)) :
    value lead tail = n := by
  cases h with
  | one hn ha => simpa [value] using ha
  | two h₁ h₂ ha hb => simp [value]; omega
  | three h₁ h₂ ha hb hc => simp [value]; omega
  | four h₁ h₂ ha hb hc hd => simp [value]; omega

/-- A character is read back from the bytes that it is written as. -/
theorem decode_of_utf8EncodeChar {c : Char} {lead : UInt8} {tail : List UInt8}
    (h : String.utf8EncodeChar c = lead :: tail) : decode lead tail = .ok c := by
  have hf : Form c.toNat (lead :: tail) := h ▸ form_utf8EncodeChar c
  have hc := toNat_scalar c
  have hfit := fitting_of_form hf (by omega)
  simp only [decode, hfit, ↓reduceIte, value_of_form hf, Char.ofNat_toNat]

end LuScan.Utf8
