import LuScan.Proofs.Declaration.Verdict

/-!
The forms of an `int` declaration. The longest beginning of a form among the tokens after the
keyword settles what a check says of the declaration, and where it stops.
-/
namespace LuScan

/-- What is wrong with a kind in the place of another one. -/
def CheckCause.inPlace (found : Kind) : Kind → CheckCause
  | .identifier => .missingIdentifier found
  | .assign => .missingAssign found
  | _ => .typeMismatch .int found

namespace Declaration

variable {keyword t : Token} {last : Position} {done ks more : List Kind} {k k' : Kind}
  {ts rest : List Token} {e : CheckError}

/-- The kinds after the keyword of an `int` declaration. -/
def intForms : List (List Kind) :=
  [[.identifier, .assign, .integer], [.identifier, .assign, .minus, .integer]]

/-- Some form goes on with `k` after the kinds `ks`. -/
def Wanted (ks : List Kind) (k : Kind) : Prop := ∃ form ∈ intForms, ks ++ [k] <+: form

theorem wanted_nil_iff : Wanted [] k ↔ k = .identifier := by
  simp [Wanted, intForms]

theorem wanted_assign_iff : Wanted [.identifier] k ↔ k = .assign := by
  simp [Wanted, intForms]

theorem wanted_value_iff : Wanted [.identifier, .assign] k ↔ k = .integer ∨ k = .minus := by
  simp [Wanted, intForms]

theorem wanted_integer_iff : Wanted [.identifier, .assign, .minus] k ↔ k = .integer := by
  simp [Wanted, intForms]

theorem wanted_of_mem (h : ks ++ k :: more ∈ intForms) : Wanted ks k :=
  ⟨_, h, more, by simp⟩

theorem Wanted.of_append (h : Wanted (ks ++ k :: more) k') : Wanted ks k := by
  obtain ⟨form, hform, hprefix⟩ := h
  refine ⟨form, hform, List.IsPrefix.trans ⟨more ++ [k'], ?_⟩ hprefix⟩
  simp

/-- No form goes on after another one. -/
theorem not_wanted_append (h : ks ∈ intForms) (more : List Kind) : ¬ Wanted (ks ++ more) k := by
  simp only [intForms, List.mem_cons, List.not_mem_nil, or_false] at h
  rcases h with rfl | rfl <;> simp [Wanted, intForms]

theorem not_wanted_of_mem (h : ks ∈ intForms) : ¬ Wanted ks k := by
  simpa using not_wanted_append (k := k) h []

/-- What is said of an `int` declaration when tokens of the kinds `done` have been passed after its
keyword, and the tokens that stay: a token is missing, one does not fit, or a form is complete. -/
inductive Judged (keyword : Token) (last : Position) (done : List Kind) (ts : List Token) :
    CheckError → List Token → Prop
  | cut {k : Kind} : Wanted (done ++ ts.map (·.kind)) k →
      Judged keyword last done ts ⟨.unexpectedEnd, last⟩ []
  | misfit {fit rest : List Token} {t : Token} {k : Kind} : ts = fit ++ t :: rest →
      Wanted (done ++ fit.map (·.kind)) k → ¬ Wanted (done ++ fit.map (·.kind)) t.kind →
      Judged keyword last done ts ⟨.inPlace t.kind k, t.pos⟩ rest
  | complete {fit rest : List Token} : ts = fit ++ rest →
      done ++ fit.map (·.kind) ∈ intForms →
      Judged keyword last done ts ⟨.unimplemented .int, keyword.pos⟩ rest

theorem Judged.isSuffix (h : Judged keyword last done ts e rest) : rest <:+ ts := by
  cases h with
  | cut => exact List.nil_suffix
  | @misfit fit _ t _ hts => exact ⟨fit ++ [t], by simp [hts]⟩
  | @complete fit _ hts => exact ⟨fit, hts.symm⟩

theorem judged_iff_of_mem (h : done ∈ intForms) : Judged keyword last done ts e rest ↔
    (e, rest) = (⟨.unimplemented .int, keyword.pos⟩, ts) := by
  constructor
  · intro hj
    cases hj with
    | cut hk => exact absurd hk (not_wanted_append h _)
    | misfit _ hk => exact absurd hk (not_wanted_append h _)
    | @complete fit _ hts hform =>
      cases fit with
      | nil => rw [hts, List.nil_append]
      | cons t fit => exact absurd (wanted_of_mem hform) (not_wanted_of_mem h)
  · intro he
    cases he
    exact .complete (List.nil_append ts).symm (by simpa using h)

theorem judged_nil_iff (hk : Wanted done k) : Judged keyword last done [] e rest ↔
    (e, rest) = (⟨.unexpectedEnd, last⟩, []) := by
  constructor
  · intro hj
    cases hj with
    | cut => rfl
    | misfit hts => simp at hts
    | complete hts hform =>
      obtain ⟨rfl, rfl⟩ := List.append_eq_nil_iff.mp hts.symm
      exact absurd hk (not_wanted_of_mem (by simpa using hform))
  · intro he
    cases he
    exact .cut (by simpa using hk)

/-- A token that fits is passed. -/
theorem judged_cons_iff_of_wanted (ht : Wanted done t.kind) :
    Judged keyword last done (t :: ts) e rest ↔
      Judged keyword last (done ++ [t.kind]) ts e rest := by
  constructor
  · intro hj
    cases hj with
    | cut hk => exact .cut (by simpa using hk)
    | @misfit fit _ u _ hts hk hu =>
      cases fit with
      | nil =>
        cases hts
        exact absurd ht (by simpa using hu)
      | cons v fit =>
        cases hts
        exact .misfit rfl (by simpa using hk) (by simpa using hu)
    | @complete fit _ hts hform =>
      cases fit with
      | nil => exact absurd ht (not_wanted_of_mem (by simpa using hform))
      | cons v fit =>
        cases hts
        exact .complete rfl (by simpa using hform)
  · intro hj
    cases hj with
    | cut hk => exact .cut (by simpa using hk)
    | @misfit fit rest u _ hts hk hu =>
      have hcons : t :: ts = (t :: fit) ++ u :: rest := congrArg (t :: ·) hts
      exact .misfit hcons (by simpa using hk) (by simpa using hu)
    | @complete fit rest hts hform =>
      have hcons : t :: ts = (t :: fit) ++ rest := congrArg (t :: ·) hts
      exact .complete hcons (by simpa using hform)

/-- A token that does not fit is looked at, and no more. -/
theorem judged_cons_iff_of_not_wanted (ht : ¬ Wanted done t.kind) (hk : Wanted done k)
    (hcause : ∀ k', Wanted done k' → CheckCause.inPlace t.kind k' = .inPlace t.kind k) :
    Judged keyword last done (t :: ts) e rest ↔
      (e, rest) = (⟨.inPlace t.kind k, t.pos⟩, ts) := by
  constructor
  · intro hj
    cases hj with
    | cut hk => exact absurd (Wanted.of_append hk) ht
    | @misfit fit _ u k' hts hk' hu =>
      cases fit with
      | nil =>
        cases hts
        rw [hcause k' (by simpa using hk')]
      | cons v fit =>
        cases hts
        exact absurd (Wanted.of_append hk') ht
    | @complete fit _ hts hform =>
      cases fit with
      | nil => exact absurd hk (not_wanted_of_mem (by simpa using hform))
      | cons v fit =>
        cases hts
        exact absurd (wanted_of_mem hform) ht
  · intro he
    cases he
    exact .misfit (List.nil_append (t :: ts)).symm (by simpa using hk) (by simpa using ht)

/-- The integer comes after the assignment or after a sign. -/
theorem judged_iff_integer (hform : done ++ [.integer] ∈ intForms)
    (hwanted : ∀ k, Wanted done k → k = .integer ∨ k = .minus)
    (hsign : ∀ t ∈ ts.head?, t.kind = .minus → ¬ Wanted done t.kind) :
    Judged keyword last done ts e rest ↔ (e, rest) = integer keyword last ts := by
  have hinteger : Wanted done .integer := wanted_of_mem hform
  cases ts with
  | nil => exact judged_nil_iff hinteger
  | cons t ts =>
    rw [integer]
    split
    next ht => rw [judged_cons_iff_of_wanted (ht ▸ hinteger), ht, judged_iff_of_mem hform]
    next ht =>
      have hmisfit : ¬ Wanted done t.kind := by
        intro hk
        exact (hwanted _ hk).elim ht fun hminus => hsign t rfl hminus hk
      refine judged_cons_iff_of_not_wanted hmisfit hinteger ?_
      intro k' hk'
      rcases hwanted k' hk' with rfl | rfl <;> rfl

theorem judged_iff_value :
    Judged keyword last [.identifier, .assign] ts e rest ↔ (e, rest) = value keyword last ts := by
  cases ts with
  | nil => exact judged_nil_iff (wanted_value_iff.mpr (.inl rfl))
  | cons t ts =>
    rw [value]
    split
    next ht =>
      rw [judged_cons_iff_of_wanted (wanted_value_iff.mpr (.inr ht)), ht]
      apply judged_iff_integer (by decide)
      · exact fun k hk => .inl (wanted_integer_iff.mp hk)
      · intro t _ ht hk
        cases ht.symm.trans (wanted_integer_iff.mp hk)
    next ht =>
      apply judged_iff_integer (by decide)
      · exact fun k => wanted_value_iff.mp
      · intro u hu hminus
        cases hu
        exact absurd hminus ht

theorem judged_iff_assignment :
    Judged keyword last [.identifier] ts e rest ↔ (e, rest) = assignment keyword last ts := by
  have hassign : Wanted [.identifier] .assign := wanted_assign_iff.mpr rfl
  cases ts with
  | nil => exact judged_nil_iff hassign
  | cons t ts =>
    rw [assignment]
    split
    next ht =>
      rw [judged_cons_iff_of_wanted (ht ▸ hassign), ht]
      exact judged_iff_value
    next ht =>
      apply judged_cons_iff_of_not_wanted (mt wanted_assign_iff.mp ht) hassign
      intro k' hk'
      rw [wanted_assign_iff.mp hk']

/-- The checking functions say what the forms do. -/
theorem judged_iff_int :
    Judged keyword last [] ts e rest ↔ (e, rest) = int keyword last ts := by
  have hidentifier : Wanted [] .identifier := wanted_nil_iff.mpr rfl
  cases ts with
  | nil => exact judged_nil_iff hidentifier
  | cons t ts =>
    rw [int]
    split
    next ht =>
      rw [judged_cons_iff_of_wanted (ht ▸ hidentifier), ht]
      exact judged_iff_assignment
    next ht =>
      apply judged_cons_iff_of_not_wanted (mt wanted_nil_iff.mp ht) hidentifier
      intro k' hk'
      rw [wanted_nil_iff.mp hk']

end Declaration
end LuScan
