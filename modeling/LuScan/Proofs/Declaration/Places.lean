import LuScan.Proofs.Declaration.Forms

/-!
The places where checks stop. From any place in a token list, the first keyword of a type decides
what a check says and where it stops, and a fresh check of the tokens from that place on says the
same.
-/
namespace LuScan

namespace Declaration

/-- From place `i` on, no token before `t` is the keyword of a type. -/
structure First (ts : List Token) (i : Nat) (before : List Token) (t : Token)
    (after : List Token) : Prop where
  eq_append : ts = before ++ t :: after
  le_length : i ≤ before.length
  passed : ∀ u ∈ before.drop i, u.kind ∉ typeKinds

theorem First.getElem?_eq {ts before after : List Token} {i : Nat} {t : Token}
    (hf : First ts i before t after) : ts[before.length]? = some t := by
  simp [hf.eq_append]

theorem First.exists_of_getElem? {ts : List Token} {i : Nat} {t : Token} (ht : ts[i]? = some t) :
    ∃ before after, before.length = i ∧ First ts i before t after := by
  obtain ⟨hi, rfl⟩ := List.getElem?_eq_some_iff.mp ht
  have hlength : (ts.take i).length = i := List.length_take_of_le (Nat.le_of_lt hi)
  refine ⟨ts.take i, ts.drop (i + 1), hlength, ?_, Nat.le_of_eq hlength.symm, ?_⟩
  · rw [List.getElem_cons_drop, List.take_append_drop]
  · simp [List.drop_eq_nil_of_le (Nat.le_of_eq hlength)]

/-- A check of `ts` from place `i` on comes to the verdict `r` and stops at place `n`. It stops at
the end, at the keyword of a type other than `int`, or behind what it looked at of an `int`
declaration. -/
inductive Concludes (ts : List Token) (i : Nat) : Except CheckError Unit → Nat → Prop
  | passed : (∀ t ∈ ts.drop i, t.kind ∉ typeKinds) → Concludes ts i (.ok ()) ts.length
  | string {before after : List Token} {t : Token} :
      First ts i before t after → t.kind = .stringType →
      Concludes ts i (.error ⟨.unimplemented .string, t.pos⟩) before.length
  | boolean {before after : List Token} {t : Token} :
      First ts i before t after → t.kind = .booleanType →
      Concludes ts i (.error ⟨.unimplemented .boolean, t.pos⟩) before.length
  | int {before after rest : List Token} {t last : Token} {e : CheckError} :
      First ts i before t after → t.kind = .intType → ts.getLast? = some last →
      Judged t last.pos [] after e rest →
      Concludes ts i (.error e) (ts.length - rest.length)

end Declaration

namespace Checker

open Declaration

variable {c : Checker} {before after : List Token} {t last : Token} {type : DeclType}

theorem length_rest (c : Checker) : c.rest.length = c.tokens.length - c.cursor :=
  List.length_drop

theorem check_of_verdict {r : Except CheckError Unit} {left : List Token} {n : Nat}
    (hverdict : verdict c.lastPos c.rest = (r, left)) (hle : c.cursor ≤ n)
    (hn : n + left.length = c.tokens.length) : c.check = (r, { c with cursor := n }) := by
  have hlength := c.length_rest
  simp only [check, hverdict, Prod.mk.injEq, mk.injEq, true_and]
  omega

theorem check_of_passed (h : c.cursor ≤ c.tokens.length)
    (hnone : ∀ t ∈ c.rest, t.kind ∉ typeKinds) :
    c.check = (.ok (), { c with cursor := c.tokens.length }) :=
  check_of_verdict (verdict_of_forall hnone c.lastPos) h (Nat.add_zero _)

theorem rest_of_first (hf : First c.tokens c.cursor before t after) :
    c.rest = before.drop c.cursor ++ t :: after := by
  rw [rest, hf.eq_append, List.drop_append_of_le_length hf.le_length]

theorem check_of_other (hf : First c.tokens c.cursor before t after)
    (ht : t.kind = type.keyword) (htype : type ≠ .int) :
    c.check = (.error ⟨.unimplemented type, t.pos⟩, { c with cursor := before.length }) := by
  have hverdict : verdict c.lastPos c.rest = (.error ⟨.unimplemented type, t.pos⟩, t :: after) := by
    rw [rest_of_first hf, verdict_append hf.passed, verdict_other ht htype]
  apply check_of_verdict hverdict hf.le_length
  rw [hf.eq_append, List.length_append]

theorem check_of_string (hf : First c.tokens c.cursor before t after) (ht : t.kind = .stringType) :
    c.check = (.error ⟨.unimplemented .string, t.pos⟩, { c with cursor := before.length }) :=
  check_of_other hf (show t.kind = DeclType.string.keyword from ht) DeclType.noConfusion

theorem check_of_boolean (hf : First c.tokens c.cursor before t after)
    (ht : t.kind = .booleanType) :
    c.check = (.error ⟨.unimplemented .boolean, t.pos⟩, { c with cursor := before.length }) :=
  check_of_other hf (show t.kind = DeclType.boolean.keyword from ht) DeclType.noConfusion

theorem check_of_int (hf : First c.tokens c.cursor before t after) (ht : t.kind = .intType)
    {e : CheckError} {rest : List Token} (hj : Judged t c.lastPos [] after e rest) :
    c.check = (.error e, { c with cursor := c.tokens.length - rest.length }) := by
  have hverdict : verdict c.lastPos c.rest = (.error e, rest) := by
    rw [rest_of_first hf, verdict_append hf.passed, verdict_int ht, ← judged_iff_int.mp hj]
  have hle := hf.le_length
  have hrest := hj.isSuffix.length_le
  have htokens := congrArg List.length hf.eq_append
  rw [List.length_append, List.length_cons] at htokens
  apply check_of_verdict hverdict <;> omega

theorem lastPos_eq (h : c.tokens.getLast? = some last) : c.lastPos = last.pos := by
  simp [lastPos, h]

/-- Nothing is declared from the cursor on, or there is a first declaration. -/
theorem exists_first (c : Checker) : (∀ t ∈ c.rest, t.kind ∉ typeKinds) ∨
    ∃ before t after, First c.tokens c.cursor before t after ∧ t.kind ∈ typeKinds := by
  rcases exists_first_keyword c.rest with hnone | ⟨passed, t, after, hrest, hpassed, ht⟩
  · exact .inl hnone
  · have htake : (c.tokens.take c.cursor).length = c.cursor := by
      have hlength := congrArg List.length hrest
      rw [length_rest, List.length_append, List.length_cons] at hlength
      rw [List.length_take]
      omega
    refine .inr ⟨c.tokens.take c.cursor ++ passed, t, after, ⟨?_, ?_, ?_⟩, ht⟩
    · rw [List.append_assoc, ← hrest]
      exact (List.take_append_drop c.cursor c.tokens).symm
    · rw [List.length_append, htake]
      omega
    · rwa [List.drop_left' htake]

theorem check_concludes (h : c.cursor ≤ c.tokens.length) :
    Concludes c.tokens c.cursor c.check.1 c.check.2.cursor := by
  rcases c.exists_first with hnone | ⟨before, t, after, hf, ht⟩
  · rw [check_of_passed h hnone]
    exact .passed hnone
  · obtain ⟨type, htype⟩ := DeclType.exists_keyword_of_mem ht
    cases type with
    | int =>
      have hne : c.tokens ≠ [] := by simp [hf.eq_append]
      have hlast := List.getLast?_eq_some_getLast hne
      have hj : Judged t c.lastPos [] after _ _ := judged_iff_int.mpr rfl
      rw [check_of_int hf htype hj]
      exact .int hf htype hlast (lastPos_eq hlast ▸ hj)
    | string =>
      rw [check_of_string hf htype]
      exact .string hf htype
    | boolean =>
      rw [check_of_boolean hf htype]
      exact .boolean hf htype

/-- Both checks look at the tokens from the cursor on, and a token is missing only behind the
last. -/
theorem check_eq_fresh (c : Checker) : c.check.1 = checkTokens c.rest := by
  rcases Nat.lt_or_ge c.cursor c.tokens.length with hlt | hge
  · have hlast : c.lastPos = (mk c.rest 0).lastPos := by
      simp only [lastPos, rest, List.getLast?_drop, if_neg (Nat.not_le.mpr hlt)]
    rw [checkTokens_eq_verdict, ← hlast]
    rfl
  · have hrest : c.rest = [] := List.drop_eq_nil_of_le hge
    rw [check, hrest]
    rfl

/-- A check is settled by the first type that is declared from the cursor on and, if that is `int`,
by the tokens after its keyword. It says what a fresh check of the tokens from the cursor on
says. -/
theorem check_eq_iff_concludes {c : Checker} (h : c.cursor ≤ c.tokens.length) :
    (∀ (r : Except CheckError Unit) (n : Nat), c.check = (r, { c with cursor := n }) ↔
      Concludes c.tokens c.cursor r n) ∧
    c.check.1 = checkTokens (c.tokens.drop c.cursor) := by
  refine ⟨fun r n => ⟨fun hcheck => ?_, fun hr => ?_⟩, c.check_eq_fresh⟩
  · have hconcludes := check_concludes h
    rwa [hcheck] at hconcludes
  · cases hr with
    | passed hnone => exact check_of_passed h hnone
    | string hf ht => exact check_of_string hf ht
    | boolean hf ht => exact check_of_boolean hf ht
    | int hf ht hlast hj => exact check_of_int hf ht (lastPos_eq hlast ▸ hj)

/-- A keyword in the place of a value is passed like any other token that does not fit. A check that
comes to it otherwise stops there, as it does at the keyword after it. -/
theorem check_eq_iff_concludes_of_three_types : ∃ ts : List Token,
    ts.map (·.kind) = [.identifier, .intType, .identifier, .assign, .minus, .stringType,
      .booleanType, .endOfInput] ∧
    ts.length = 8 ∧
    Concludes ts 1 (.error ⟨.typeMismatch .int .stringType, ⟨1, 12⟩⟩) 6 ∧
    checkTokens (ts.drop 1) = .error ⟨.typeMismatch .int .stringType, ⟨1, 12⟩⟩ ∧
    (mk ts 2).check = (.error ⟨.unimplemented .string, ⟨1, 12⟩⟩, ⟨ts, 5⟩) ∧
    (mk ts 6).check = (.error ⟨.unimplemented .boolean, ⟨1, 19⟩⟩, ⟨ts, 6⟩) ∧
    (mk ts 7).check = (.ok (), ⟨ts, 8⟩) := by
  obtain ⟨ts, hts⟩ : ∃ ts : List Token, ts = [⟨"m", ⟨1, 0⟩, .identifier, "a"⟩,
    ⟨"m", ⟨1, 2⟩, .intType, "int"⟩, ⟨"m", ⟨1, 6⟩, .identifier, "x"⟩,
    ⟨"m", ⟨1, 8⟩, .assign, "="⟩, ⟨"m", ⟨1, 10⟩, .minus, "-"⟩,
    ⟨"m", ⟨1, 12⟩, .stringType, "string"⟩, ⟨"m", ⟨1, 19⟩, .booleanType, "boolean"⟩,
    ⟨"m", ⟨1, 26⟩, .endOfInput, ""⟩] := ⟨_, rfl⟩
  have hlength : ts.length = 8 := by rw [hts]; rfl
  have hint : (mk ts 1).check =
      (.error ⟨.typeMismatch .int .stringType, ⟨1, 12⟩⟩, ⟨ts, 6⟩) := by rw [hts]; rfl
  have hstring : First ts 2 (ts.take 5) ⟨"m", ⟨1, 12⟩, .stringType, "string"⟩ (ts.drop 6) := by
    rw [hts]
    exact ⟨rfl, by decide, by decide⟩
  have hboolean : First ts 6 (ts.take 6) ⟨"m", ⟨1, 19⟩, .booleanType, "boolean"⟩ (ts.drop 7) := by
    rw [hts]
    exact ⟨rfl, by decide, by decide⟩
  have hpassed : ∀ t ∈ ts.drop 7, t.kind ∉ typeKinds := by rw [hts]; decide
  have hconcludes (i : Nat) (hi : i ≤ 8) := check_eq_iff_concludes (c := ⟨ts, i⟩) (hlength ▸ hi)
  have hstopped := ((hconcludes 2 (by decide)).1 _ _).mpr (.string hstring rfl)
  have hstopped' := ((hconcludes 6 (by decide)).1 _ _).mpr (.boolean hboolean rfl)
  have hended := ((hconcludes 7 (by decide)).1 _ _).mpr (.passed hpassed)
  rw [List.length_take, hlength] at hstopped hstopped'
  rw [hlength] at hended
  refine ⟨ts, by rw [hts]; rfl, hlength, ((hconcludes 1 (by decide)).1 _ _).mp hint, ?_, hstopped,
    hstopped', hended⟩
  rw [← (hconcludes 1 (by decide)).2, hint]

end Checker
end LuScan
