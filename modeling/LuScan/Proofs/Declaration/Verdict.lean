import LuScan.Declaration.Source

/-!
What a check of declarations can end in. The first keyword of a type decides, and what is said of an
`int` declaration can be seen in the tokens after it, as long as they end with the end of input.
-/
namespace LuScan

/-- The kind that was found in the place of another one. -/
def CheckCause.found? : CheckCause → Option Kind
  | .missingIdentifier found | .missingAssign found | .typeMismatch _ found => some found
  | .unexpectedEnd | .unimplemented _ => none

/-- The keyword of a type. -/
def DeclType.keyword : DeclType → Kind
  | int => .intType
  | string => .stringType
  | boolean => .booleanType

/-- The keywords of types. -/
def typeKinds : List Kind := [.intType, .stringType, .booleanType]

theorem DeclType.ofKind?_eq_some_iff {k : Kind} {type : DeclType} :
    ofKind? k = some type ↔ k = type.keyword := by
  cases type <;> cases k <;> decide

theorem DeclType.keyword_mem (type : DeclType) : type.keyword ∈ typeKinds := by
  cases type <;> decide

theorem DeclType.exists_keyword_of_mem {k : Kind} (h : k ∈ typeKinds) :
    ∃ type : DeclType, k = type.keyword := by
  simp only [typeKinds, List.mem_cons, List.not_mem_nil, or_false] at h
  rcases h with rfl | rfl | rfl
  · exact ⟨int, rfl⟩
  · exact ⟨string, rfl⟩
  · exact ⟨boolean, rfl⟩

theorem DeclType.ofKind?_eq_none_iff {k : Kind} : ofKind? k = none ↔ k ∉ typeKinds := by
  cases k <;> decide

/-- What an error says can be seen in the tokens: the kind that it found stands where it says, and
the type that it has no use for is declared there, by the first keyword of a type. -/
structure CheckError.SeenIn (ts : List Token) (e : CheckError) : Prop where
  ne_unexpectedEnd : e.cause ≠ .unexpectedEnd
  found : ∀ k ∈ e.cause.found?, ∃ t ∈ ts, t.pos = e.pos ∧ t.kind = k
  unimplemented : ∀ type : DeclType, e.cause = .unimplemented type →
    ∃ before t after, ts = before ++ t :: after ∧
      (∀ u ∈ before, u.kind ∉ typeKinds) ∧ t.kind = type.keyword ∧ t.pos = e.pos

namespace Declaration

variable {keyword t : Token} {ts rest : List Token} {e : CheckError}

/-- The last token is the end of input. -/
def Closed (ts : List Token) : Prop := ∃ t ∈ ts.getLast?, t.kind = .endOfInput

theorem not_closed_nil : ¬ Closed [] := by
  rintro ⟨t, ht, -⟩
  cases ht

theorem Closed.of_cons (h : Closed (t :: rest)) (ht : t.kind ≠ .endOfInput) : Closed rest := by
  obtain ⟨u, hu, hk⟩ := h
  cases rest with
  | nil =>
    obtain rfl : t = u := by simpa using hu
    exact absurd hk ht
  | cons v rest => exact ⟨u, by rwa [List.getLast?_cons_cons] at hu, hk⟩

/-- An error of an `int` declaration is at the keyword, or at a token after it that it names. -/
def Blames (keyword : Token) (ts : List Token) (e : CheckError) : Prop :=
  e = ⟨.unimplemented .int, keyword.pos⟩ ∨ ∃ t ∈ ts, t.pos = e.pos ∧ e.cause.found? = some t.kind

theorem Blames.cons (h : Blames keyword rest e) : Blames keyword (t :: rest) e := by
  rcases h with rfl | ⟨u, hu, hpos, hk⟩
  · exact .inl rfl
  · exact .inr ⟨u, List.mem_cons_of_mem t hu, hpos, hk⟩

theorem integer_blames (h : Closed ts) (last : Position) :
    Blames keyword ts (integer keyword last ts).1 := by
  cases ts with
  | nil => exact absurd h not_closed_nil
  | cons t rest =>
    rw [integer]
    split
    next => exact .inl rfl
    next => exact .inr ⟨t, List.mem_cons_self, rfl, rfl⟩

theorem value_blames (h : Closed ts) (last : Position) :
    Blames keyword ts (value keyword last ts).1 := by
  cases ts with
  | nil => exact absurd h not_closed_nil
  | cons t rest =>
    rw [value]
    split
    next hk => exact (integer_blames (h.of_cons (by simp [hk])) last).cons
    next => exact integer_blames h last

theorem assignment_blames (h : Closed ts) (last : Position) :
    Blames keyword ts (assignment keyword last ts).1 := by
  cases ts with
  | nil => exact absurd h not_closed_nil
  | cons t rest =>
    rw [assignment]
    split
    next hk => exact (value_blames (h.of_cons (by simp [hk])) last).cons
    next => exact .inr ⟨t, List.mem_cons_self, rfl, rfl⟩

/-- The end of input is none of the kinds that a declaration wants, so no check passes it. -/
theorem int_blames (h : Closed ts) (last : Position) :
    Blames keyword ts (int keyword last ts).1 := by
  cases ts with
  | nil => exact absurd h not_closed_nil
  | cons t rest =>
    rw [int]
    split
    next hk => exact (assignment_blames (h.of_cons (by simp [hk])) last).cons
    next => exact .inr ⟨t, List.mem_cons_self, rfl, rfl⟩

/-- There is no keyword of a type, or a first one. -/
theorem exists_first_keyword (ts : List Token) : (∀ t ∈ ts, t.kind ∉ typeKinds) ∨
    ∃ before t after, ts = before ++ t :: after ∧ (∀ u ∈ before, u.kind ∉ typeKinds) ∧
      t.kind ∈ typeKinds := by
  induction ts with
  | nil => exact .inl nofun
  | cons t ts ih =>
    by_cases ht : t.kind ∈ typeKinds
    · exact .inr ⟨[], t, ts, rfl, nofun, ht⟩
    · rcases ih with hnone | ⟨before, u, after, rfl, hbefore, hu⟩
      · exact .inl (List.forall_mem_cons.mpr ⟨ht, hnone⟩)
      · exact .inr ⟨t :: before, u, after, rfl, List.forall_mem_cons.mpr ⟨ht, hbefore⟩, hu⟩

theorem verdict_append {before : List Token} (h : ∀ t ∈ before, t.kind ∉ typeKinds)
    (last : Position) (ts : List Token) : verdict last (before ++ ts) = verdict last ts := by
  induction before with
  | nil => rfl
  | cons t before ih =>
    obtain ⟨ht, hbefore⟩ := List.forall_mem_cons.mp h
    rw [List.cons_append, verdict, DeclType.ofKind?_eq_none_iff.mpr ht]
    exact ih hbefore

theorem verdict_of_forall (h : ∀ t ∈ ts, t.kind ∉ typeKinds) (last : Position) :
    verdict last ts = (.ok (), []) := by
  simpa [verdict] using verdict_append h last []

theorem verdict_int (ht : t.kind = .intType) (last : Position) (after : List Token) :
    verdict last (t :: after) = (.error (int t last after).1, (int t last after).2) := by
  have htype : DeclType.ofKind? t.kind = some .int := DeclType.ofKind?_eq_some_iff.mpr ht
  rw [verdict, htype]

theorem verdict_other {type : DeclType} (ht : t.kind = type.keyword) (hne : type ≠ .int)
    (last : Position) (after : List Token) :
    verdict last (t :: after) = (.error ⟨.unimplemented type, t.pos⟩, t :: after) := by
  rw [verdict, DeclType.ofKind?_eq_some_iff.mpr ht]
  cases type with
  | int => exact absurd rfl hne
  | string | boolean => rfl

/-- The first keyword of a type decides: there is none, it is `int`, or it is of another type. -/
theorem verdict_cases (last : Position) (ts : List Token) :
    ((∀ t ∈ ts, t.kind ∉ typeKinds) ∧ verdict last ts = (.ok (), [])) ∨
    ∃ before t after, ts = before ++ t :: after ∧ (∀ u ∈ before, u.kind ∉ typeKinds) ∧
      (t.kind = .intType ∧
        verdict last ts = (.error (int t last after).1, (int t last after).2) ∨
      ∃ type : DeclType, t.kind = type.keyword ∧ type ≠ .int ∧
        verdict last ts = (.error ⟨.unimplemented type, t.pos⟩, t :: after)) := by
  rcases exists_first_keyword ts with hnone | ⟨before, t, after, rfl, hbefore, ht⟩
  · exact .inl ⟨hnone, verdict_of_forall hnone last⟩
  · obtain ⟨type, htype⟩ := DeclType.exists_keyword_of_mem ht
    refine .inr ⟨before, t, after, rfl, hbefore, ?_⟩
    rw [verdict_append hbefore]
    cases type with
    | int => exact .inl ⟨htype, verdict_int htype last after⟩
    | string => exact .inr ⟨_, htype, by decide, verdict_other htype (by decide) last after⟩
    | boolean => exact .inr ⟨_, htype, by decide, verdict_other htype (by decide) last after⟩

theorem verdict_eq_ok_iff (last : Position) (ts : List Token) :
    (verdict last ts).1 = .ok () ↔ ∀ t ∈ ts, t.kind ∉ typeKinds := by
  have hdeclared {before after : List Token} {t : Token} {type : DeclType}
      (ht : t.kind = type.keyword) : ¬ ∀ u ∈ before ++ t :: after, u.kind ∉ typeKinds := by
    intro hnone
    exact hnone t (by simp) (ht ▸ type.keyword_mem)
  rcases verdict_cases last ts with
    ⟨hnone, hv⟩ | ⟨before, t, after, rfl, -, ⟨ht, hv⟩ | ⟨type, ht, -, hv⟩⟩
  · rw [hv]
    exact iff_of_true rfl hnone
  · rw [hv]
    exact iff_of_false nofun (hdeclared (show t.kind = DeclType.int.keyword from ht))
  · rw [hv]
    exact iff_of_false nofun (hdeclared ht)

variable {before after : List Token}

/-- The type that is declared first is the one to have no use for. -/
theorem seenIn_of_unimplemented {type : DeclType}
    (hbefore : ∀ u ∈ before, u.kind ∉ typeKinds) (ht : t.kind = type.keyword) :
    (CheckError.mk (.unimplemented type) t.pos).SeenIn (before ++ t :: after) where
  ne_unexpectedEnd := nofun
  found _ hk := by cases hk
  unimplemented _ htype := by
    cases htype
    exact ⟨before, t, after, rfl, hbefore, ht, rfl⟩

theorem Blames.seenIn (h : Blames t after e)
    (hbefore : ∀ u ∈ before, u.kind ∉ typeKinds) (ht : t.kind = .intType) :
    e.SeenIn (before ++ t :: after) := by
  rcases h with rfl | ⟨u, hu, hpos, hk⟩
  · exact seenIn_of_unimplemented hbefore (show t.kind = DeclType.int.keyword from ht)
  · refine ⟨fun hend => ?_, fun k hfound => ?_, fun type htype => ?_⟩
    · rw [hend] at hk
      cases hk
    · exact ⟨u, by simp [hu], hpos, Option.some.inj (hk.symm.trans hfound)⟩
    · rw [htype] at hk
      cases hk

/-- An error in a list that the end of input closes can be seen there. -/
theorem verdict_seenIn (hclosed : Closed ts) {last : Position}
    (he : (verdict last ts).1 = .error e) : e.SeenIn ts := by
  rcases verdict_cases last ts with
    ⟨-, hv⟩ | ⟨before, t, after, rfl, hbefore, ⟨ht, hv⟩ | ⟨type, ht, -, hv⟩⟩
  · rw [hv] at he
    cases he
  · obtain ⟨u, hu, hk⟩ := hclosed
    have hcons : Closed (t :: after) := ⟨u, by simpa using hu, hk⟩
    have hafter := hcons.of_cons (by simp [ht])
    rw [hv, Except.error.injEq] at he
    subst he
    exact (int_blames hafter last).seenIn hbefore ht
  · rw [hv, Except.error.injEq] at he
    subst he
    exact seenIn_of_unimplemented hbefore ht

end Declaration

theorem checkTokens_eq_verdict (ts : List Token) :
    checkTokens ts = (Declaration.verdict (Checker.mk ts 0).lastPos ts).1 := rfl

/-- Tokens pass the check exactly when no type is declared among them. -/
theorem checkTokens_eq_ok_iff {ts : List Token} :
    checkTokens ts = .ok () ↔ ∀ t ∈ ts, t.kind ∉ typeKinds := by
  rw [checkTokens_eq_verdict, Declaration.verdict_eq_ok_iff]

end LuScan
