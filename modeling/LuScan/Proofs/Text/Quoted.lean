import LuScan.Text.Quoted

/-!
Quoted text read back. Each character between double quotes tells where it ends, so the text is
determined; and a quoted text at the end of a line is found from the end, since no mark within it
stands without a backslash.
-/
namespace LuScan

/-- The first place of an element splits a list in one way. -/
theorem append_cons_inj_first {α : Type} {a : α} {xs ys us vs : List α} (hx : a ∉ xs) (hy : a ∉ ys)
    (h : xs ++ a :: us = ys ++ a :: vs) : xs = ys ∧ us = vs := by
  induction xs generalizing ys with
  | nil =>
    cases ys with
    | nil => simpa using h
    | cons y ys =>
      obtain ⟨rfl, -⟩ := List.cons.inj h
      exact absurd List.mem_cons_self hy
  | cons x xs ih =>
    cases ys with
    | nil =>
      obtain ⟨rfl, -⟩ := List.cons.inj h
      exact absurd List.mem_cons_self hx
    | cons y ys =>
      obtain ⟨rfl, htail⟩ := List.cons.inj h
      obtain ⟨rfl, rfl⟩ :=
        ih (List.not_mem_of_not_mem_cons hx) (List.not_mem_of_not_mem_cons hy) htail
      exact ⟨rfl, rfl⟩

/-- So does the last one. -/
theorem append_cons_inj_last {α : Type} {a : α} {xs ys us vs : List α} (hu : a ∉ us) (hv : a ∉ vs)
    (h : xs ++ a :: us = ys ++ a :: vs) : xs = ys ∧ us = vs := by
  have hreverse : us.reverse ++ a :: xs.reverse = vs.reverse ++ a :: ys.reverse := by
    simpa using congrArg List.reverse h
  obtain ⟨huv, hxy⟩ := append_cons_inj_first (by simpa using hu) (by simpa using hv) hreverse
  exact ⟨List.reverse_inj.mp hxy, List.reverse_inj.mp huv⟩

section Digits

variable {b : Nat}

theorem digitChar_inj : ∀ m < 16, ∀ n < 16, Nat.digitChar m = Nat.digitChar n → m = n := by
  decide

/-- A number is determined by its digits, to any base up to sixteen. -/
theorem toDigits_inj (hb : 1 < b) (hb' : b ≤ 16) {m n : Nat}
    (h : Nat.toDigits b m = Nat.toDigits b n) : m = n := by
  induction m using Nat.strongRecOn generalizing n with
  | ind m ih =>
    rcases Nat.lt_or_ge m b with hm | hm <;> rcases Nat.lt_or_ge n b with hn | hn
    · rw [Nat.toDigits_of_lt_base hm, Nat.toDigits_of_lt_base hn] at h
      exact digitChar_inj m (by omega) n (by omega) (by simpa using h)
    · rw [Nat.toDigits_of_lt_base hm, Nat.toDigits_of_base_le hb hn] at h
      have hnil : [] ++ [m.digitChar] = Nat.toDigits b (n / b) ++ [(n % b).digitChar] := h
      exact absurd (List.append_inj' hnil rfl).1.symm Nat.toDigits_ne_nil
    · rw [Nat.toDigits_of_base_le hb hm, Nat.toDigits_of_lt_base hn] at h
      have hnil : Nat.toDigits b (m / b) ++ [(m % b).digitChar] = [] ++ [n.digitChar] := h
      exact absurd (List.append_inj' hnil rfl).1 Nat.toDigits_ne_nil
    · rw [Nat.toDigits_of_base_le hb hm, Nat.toDigits_of_base_le hb hn] at h
      obtain ⟨hhigh, hlow⟩ := List.append_inj' h rfl
      have hdiv : m / b = n / b := ih (m / b) (Nat.div_lt_self (by omega) hb) hhigh
      have hlt (k : Nat) : k % b < 16 := Nat.lt_of_lt_of_le (Nat.mod_lt k (by omega)) hb'
      have hmod : m % b = n % b := digitChar_inj _ (hlt m) _ (hlt n) (by simpa using hlow)
      rw [← Nat.div_add_mod m b, hdiv, hmod, Nat.div_add_mod]

theorem notMem_toDigits (hb : 1 < b) (hb' : b ≤ 16) {c : Char}
    (hc : ∀ n < 16, Nat.digitChar n ≠ c) (n : Nat) : c ∉ Nat.toDigits b n := by
  induction n using Nat.strongRecOn with
  | ind n ih =>
    rcases Nat.lt_or_ge n b with hn | hn
    · rw [Nat.toDigits_of_lt_base hn, List.mem_singleton]
      exact (hc n (by omega)).symm
    · have hlast : c ≠ (n % b).digitChar :=
        (hc (n % b) (Nat.lt_of_lt_of_le (Nat.mod_lt n (by omega)) hb')).symm
      rw [Nat.toDigits_of_base_le hb hn, List.mem_append, List.mem_singleton, not_or]
      exact ⟨ih (n / b) (Nat.div_lt_self (by omega) hb), hlast⟩

end Digits

namespace Quoted

variable {c d : Char} {x y xs ys cs ds : List Char}

/-- What a letter after a backslash stands for. -/
def named : Char → Char
  | '0' => '\x00'
  | 't' => '\t'
  | 'r' => '\r'
  | 'n' => '\n'
  | c => c

/-- The ways to write a character between double quotes. -/
inductive Written (c : Char) : List Char → Prop
  | raw : c ≠ '"' → c ≠ '\\' → c ≠ '\n' → Written c [c]
  | letter {d : Char} : d ≠ 'u' → d ≠ '\n' → named d = c → Written c ['\\', d]
  | code : Written c (codePoint c)

theorem written_escape (c : Char) : Written c (escape '"' c) := by
  unfold escape
  split
  next h => rcases h with rfl | rfl <;> exact .letter (by decide) (by decide) (by decide)
  next h =>
    rw [not_or] at h
    split
    next h => exact .letter (by decide) (by decide) h.symm
    next =>
    split
    next h => exact .letter (by decide) (by decide) h.symm
    next =>
    split
    next h => exact .letter (by decide) (by decide) h.symm
    next =>
    split
    next h => exact .letter (by decide) (by decide) h.symm
    next hnewline =>
    split
    next => exact .code
    next => exact .raw h.1 h.2 hnewline

theorem Written.ne_nil (hx : Written c x) : x ≠ [] := by
  cases hx <;> simp [codePoint]

/-- What is written for a character tells which one it is, and where it ends. -/
theorem Written.append_inj (hx : Written c x) (hy : Written d y) (h : x ++ xs = y ++ ys) :
    c = d ∧ xs = ys := by
  cases hx with
  | raw _ hbackslash =>
    cases hy with
    | raw => simpa using h
    | letter => simp [hbackslash] at h
    | code => simp [codePoint, hbackslash] at h
  | letter hu _ hname =>
    cases hy with
    | raw _ hbackslash => simp [hbackslash.symm] at h
    | letter _ _ hname' =>
      obtain ⟨rfl, rfl⟩ : _ ∧ xs = ys := by simpa using h
      exact ⟨hname.symm.trans hname', rfl⟩
    | code => simp [codePoint, hu] at h
  | code =>
    cases hy with
    | raw _ hbackslash => simp [codePoint, hbackslash.symm] at h
    | letter hu => simp [codePoint, hu.symm] at h
    | code =>
      have hbrace (n : Nat) : '\x7d' ∉ Nat.toDigits 16 n :=
        notMem_toDigits (by decide) (by decide) (by decide) n
      have hdigits : Nat.toDigits 16 c.toNat ++ '\x7d' :: xs =
          Nat.toDigits 16 d.toNat ++ '\x7d' :: ys := by
        simpa [codePoint] using h
      obtain ⟨hcode, rfl⟩ := append_cons_inj_first (hbrace _) (hbrace _) hdigits
      exact ⟨Char.toNat_inj.mp (toDigits_inj (by decide) (by decide) hcode), rfl⟩

theorem between_inj (h : between '"' cs = between '"' ds) : cs = ds := by
  have hbody : cs.flatMap (escape '"') = ds.flatMap (escape '"') := by
    simpa [between] using h
  clear h
  induction cs generalizing ds with
  | nil =>
    cases ds with
    | nil => rfl
    | cons d ds =>
      have hnil := (List.append_eq_nil_iff.mp hbody.symm).1
      exact absurd hnil (written_escape d).ne_nil
  | cons c cs ih =>
    cases ds with
    | nil =>
      have hnil := (List.append_eq_nil_iff.mp hbody).1
      exact absurd hnil (written_escape c).ne_nil
    | cons d ds =>
      rw [List.flatMap_cons, List.flatMap_cons] at hbody
      obtain ⟨rfl, hrest⟩ := (written_escape c).append_inj (written_escape d) hbody
      rw [ih hrest]

theorem Written.backslash_of_mark (hx : Written c (xs ++ '"' :: ys)) :
    ∃ zs, xs = zs ++ ['\\'] := by
  generalize hw : xs ++ '"' :: ys = w at hx
  cases hx with
  | raw hmark =>
    have hmem : '"' ∈ [c] := by simp [← hw]
    exact absurd (List.mem_singleton.mp hmem).symm hmark
  | letter =>
    rcases xs with _ | ⟨x, _ | ⟨x', xs⟩⟩
    · simp at hw
    · obtain ⟨rfl, -⟩ := List.cons.inj hw
      exact ⟨[], rfl⟩
    · simp at hw
  | code =>
    have hmem : '"' ∈ codePoint c := by simp [← hw]
    have hdigits : '"' ∉ Nat.toDigits 16 c.toNat :=
      notMem_toDigits (by decide) (by decide) (by decide) _
    simp [codePoint, hdigits] at hmem

/-- A mark within quoted text comes after a backslash. -/
theorem backslash_of_mark (h : cs.flatMap (escape '"') = xs ++ '"' :: ys) :
    ∃ zs, xs = zs ++ ['\\'] := by
  induction cs generalizing xs with
  | nil => simp at h
  | cons c cs ih =>
    rw [List.flatMap_cons] at h
    rcases List.append_eq_append_iff.mp h with ⟨as, rfl, hcs⟩ | ⟨bs, hc, hys⟩
    · obtain ⟨zs, rfl⟩ := ih hcs
      exact ⟨escape '"' c ++ zs, (List.append_assoc ..).symm⟩
    · cases bs with
      | nil =>
        have hcs : cs.flatMap (escape '"') = [] ++ '"' :: ys := hys.symm
        obtain ⟨zs, hzs⟩ := ih hcs
        simp at hzs
      | cons b bs =>
        obtain ⟨rfl, -⟩ := List.cons.inj hys
        exact Written.backslash_of_mark (hc ▸ written_escape c)

/-- Quoted text is on one line. -/
theorem newline_notMem_between (cs : List Char) : '\n' ∉ between '"' cs := by
  have hescape (c : Char) : '\n' ∉ escape '"' c := by
    generalize hx : escape '"' c = x
    have hwritten := written_escape c
    rw [hx] at hwritten
    cases hwritten with
    | raw _ _ hnewline => simpa using hnewline.symm
    | letter _ hnewline => simpa using hnewline.symm
    | code =>
      have hdigits : '\n' ∉ Nat.toDigits 16 c.toNat :=
        notMem_toDigits (by decide) (by decide) (by decide) _
      simp [codePoint, hdigits]
  simp [between, hescape]

theorem eq_nil_of_between {a : Char} {as : List Char} (hmark : a ≠ '"') (hbackslash : a ≠ '\\')
    (h : a :: between '"' cs = as ++ a :: between '"' ds) : as = [] := by
  rcases as with _ | ⟨b, _ | ⟨b', as⟩⟩
  · rfl
  · simp [between, hmark.symm] at h
  -- The mark that opens the second text would be within the first one, after `a`.
  · have hbody : cs.flatMap (escape '"') = (as ++ [a]) ++ '"' :: ds.flatMap (escape '"') := by
      apply (List.append_left_inj ['"']).mp
      simpa [between] using (List.cons.inj (List.cons.inj h).2).2
    obtain ⟨zs, hzs⟩ := backslash_of_mark hbody
    have hlast := (List.append_inj' hzs rfl).2
    exact absurd (by simpa using hlast) hbackslash

/-- Quoted text at the end is found from the end, if it comes after a character that is neither a
mark nor a backslash. -/
theorem append_between_inj {a : Char} (hmark : a ≠ '"') (hbackslash : a ≠ '\\')
    (h : xs ++ a :: between '"' cs = ys ++ a :: between '"' ds) : xs = ys ∧ cs = ds := by
  have hxs : xs = ys := by
    rcases List.append_eq_append_iff.mp h with ⟨as, rfl, hcs⟩ | ⟨bs, rfl, hds⟩
    · rw [eq_nil_of_between hmark hbackslash hcs, List.append_nil]
    · rw [eq_nil_of_between hmark hbackslash hds, List.append_nil]
  rw [hxs] at h
  exact ⟨hxs, between_inj (List.cons.inj (List.append_cancel_left h)).2⟩

end Quoted
end LuScan
