import LuScan.Proofs.Text.Utf8

/-!
Bytes that are read as a character are the bytes that it is written as: no overlong form, no
surrogate and nothing above the last code point is ever read.
-/
namespace LuScan.Utf8

variable {lead b : UInt8} {tail bs : List UInt8}

/-- A code point has one form. -/
theorem Form.unique {n : Nat} {xs ys : List UInt8} (hx : Form n xs) (hy : Form n ys) : xs = ys := by
  cases hx with
  | one h₁ ha =>
    cases hy with
    | one h₁' ha' =>
      simp only [← UInt8.toNat_inj, List.cons.injEq, and_true]
      omega
    | two | three | four => omega
  | two h₁ h₂ ha hb =>
    cases hy with
    | two h₁' h₂' ha' hb' =>
      simp only [← UInt8.toNat_inj, List.cons.injEq, and_true]
      omega
    | one | three | four => omega
  | three h₁ h₂ ha hb hc =>
    cases hy with
    | three h₁' h₂' ha' hb' hc' =>
      simp only [← UInt8.toNat_inj, List.cons.injEq, and_true]
      omega
    | one | two | four => omega
  | four h₁ h₂ ha hb hc hd =>
    cases hy with
    | four h₁' h₂' ha' hb' hc' hd' =>
      simp only [← UInt8.toNat_inj, List.cons.injEq, and_true]
      omega
    | one | two | three => omega

/-- The lead bytes of a width, by number. -/
theorem lead_of_width? {width : Nat} (h : width? lead = some width) :
    width = 1 ∧ lead.toNat ≤ 0x7F ∨
    width = 2 ∧ 0xC2 ≤ lead.toNat ∧ lead.toNat ≤ 0xDF ∨
    width = 3 ∧ 0xE0 ≤ lead.toNat ∧ lead.toNat ≤ 0xEF ∨
    width = 4 ∧ 0xF0 ≤ lead.toNat ∧ lead.toNat ≤ 0xF4 := by
  simp only [width?, UInt8.le_iff_toNat_le, UInt8.reduceToNat] at h
  split_ifs at h <;> cases h <;> omega

/-- The bytes that lead nothing. -/
theorem width?_eq_none_iff : width? lead = none ↔ 0x80 ≤ lead ∧ lead ≤ 0xC1 ∨ 0xF5 ≤ lead := by
  simp only [width?, UInt8.le_iff_toNat_le, UInt8.reduceToNat]
  split_ifs <;> simp <;> omega

theorem second_bounds (h : (second lead).contains b.toNat = true) :
    0x80 ≤ b.toNat ∧ b.toNat ≤ 0xBF ∧ (lead.toNat = 0xE0 → 0xA0 ≤ b.toNat) ∧
      (lead.toNat = 0xED → b.toNat ≤ 0x9F) ∧ (lead.toNat = 0xF0 → 0x90 ≤ b.toNat) ∧
      (lead.toNat = 0xF4 → b.toNat ≤ 0x8F) := by
  simp only [second, ← UInt8.toNat_inj, UInt8.reduceToNat] at h
  split_ifs at h <;> simp only [CodeRange.contains_iff, continuation] at h <;> omega

/-- If all bytes fit, the first is in the range and the others are continuation bytes. -/
theorem contains_of_fitting {range : CodeRange}
    (h : fitting range (b :: bs) = (b :: bs).length) :
    range.contains b.toNat = true ∧ fitting continuation bs = bs.length := by
  rw [fitting] at h
  split at h
  next hb => exact ⟨hb, Nat.succ.inj h⟩
  next => cases h

theorem continuation_bounds (h : fitting continuation (b :: bs) = (b :: bs).length) :
    0x80 ≤ b.toNat ∧ b.toNat ≤ 0xBF ∧ fitting continuation bs = bs.length := by
  obtain ⟨hb, hbs⟩ := contains_of_fitting h
  rw [CodeRange.contains_iff] at hb
  exact ⟨hb.1, hb.2, hbs⟩

/-- Bytes that fit their lead byte are a form of their value, which is no surrogate. -/
theorem form_of_fitting (hw : width? lead = some (tail.length + 1))
    (hf : fitting (second lead) tail = tail.length) :
    Form (value lead tail) (lead :: tail) ∧
      (value lead tail < 0xD800 ∨ 0xDFFF < value lead tail) := by
  have hlead := lead_of_width? hw
  match tail with
  | [] =>
    have hn : value lead [] = lead.toNat := rfl
    rw [List.length_nil] at hlead
    exact ⟨.one (by omega) hn.symm, by omega⟩
  | [b] =>
    obtain ⟨hb, hb', -⟩ := second_bounds (contains_of_fitting hf).1
    have hn : value lead [b] = lead.toNat % 32 * 64 + b.toNat % 64 := by simp [value]
    rw [List.length_singleton] at hlead
    exact ⟨.two (by omega) (by omega) (by omega) (by omega), by omega⟩
  | [b, c] =>
    obtain ⟨hsecond, hrest⟩ := contains_of_fitting hf
    obtain ⟨hb, hb', hE0, hED, -⟩ := second_bounds hsecond
    obtain ⟨hc, hc', -⟩ := continuation_bounds hrest
    have hn : value lead [b, c] = (lead.toNat % 16 * 64 + b.toNat % 64) * 64 + c.toNat % 64 := by
      simp [value]
    simp only [List.length_cons, List.length_nil] at hlead
    exact ⟨.three (by omega) (by omega) (by omega) (by omega) (by omega), by omega⟩
  | [b, c, d] =>
    obtain ⟨hsecond, hrest⟩ := contains_of_fitting hf
    obtain ⟨hb, hb', -, -, hF0, hF4⟩ := second_bounds hsecond
    obtain ⟨hc, hc', hlast⟩ := continuation_bounds hrest
    obtain ⟨hd, hd', -⟩ := continuation_bounds hlast
    have hn : value lead [b, c, d] =
        ((lead.toNat % 8 * 64 + b.toNat % 64) * 64 + c.toNat % 64) * 64 + d.toNat % 64 := by
      simp [value]
    simp only [List.length_cons, List.length_nil] at hlead
    exact ⟨.four (by omega) (by omega) (by omega) (by omega) (by omega) (by omega), by omega⟩
  | _ :: _ :: _ :: _ :: rest =>
    simp only [List.length_cons] at hlead
    omega

/-- What is read as a character is written as the same bytes. -/
theorem utf8EncodeChar_of_decode {c : Char} (hw : width? lead = some (tail.length + 1))
    (h : decode lead tail = .ok c) : String.utf8EncodeChar c = lead :: tail := by
  rw [decode] at h
  split at h
  next hf =>
    cases h
    obtain ⟨hform, hn⟩ := form_of_fitting hw hf
    have hmax : value lead tail < 0x110000 := by
      cases hform <;> omega
    have hvalid : (value lead tail).isValidChar := by
      rw [Nat.isValidChar]
      omega
    have hread : (Char.ofNat (value lead tail)).toNat = value lead tail := by
      rw [Char.ofNat, dif_pos hvalid]
      rfl
    have hwritten := form_utf8EncodeChar (Char.ofNat (value lead tail))
    rw [hread] at hwritten
    exact hwritten.unique hform
  next => cases h

end LuScan.Utf8
