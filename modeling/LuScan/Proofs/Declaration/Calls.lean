import LuScan.Proofs.Declaration.Places

/-!
Calls on one checker in any order. The cursor only goes forward. Checks alone come to a verdict that
does not change any more, after at most one error for each `int` that is left.
-/
namespace LuScan.Checker

open Declaration

inductive Call where
  | peek | read | atEnd | check
  deriving DecidableEq, Repr

/-- A token unless none was left, whether none is left, or a verdict. -/
inductive Answer where
  | token (found : Option Token)
  | ended (atEnd : Bool)
  | verdict (result : Except CheckError Unit)

def call (c : Checker) : Call → Answer × Checker
  | .peek => (.token c.peek, c)
  | .read => (.token c.read.1, c.read.2)
  | .atEnd => (.ended c.atEnd, c)
  | .check => (.verdict c.check.1, c.check.2)

/-- The answers to calls one after another, and the checker after them. -/
def run (c : Checker) : List Call → List Answer × Checker
  | [] => ([], c)
  | x :: calls =>
    let answer := c.call x
    let rest := answer.2.run calls
    (answer.1 :: rest.1, rest.2)

variable {c d : Checker} {r : Except CheckError Unit}

theorem peek_eq_none_iff (c : Checker) : c.peek = none ↔ c.atEnd = true := by
  simp [peek, rest, atEnd]

theorem read_eq_none_iff (c : Checker) : c.read.1 = none ↔ c.atEnd = true := by
  rw [← peek_eq_none_iff, read]
  cases c.peek <;> simp

/-- The tokens are the same, and the cursor has not gone back or beyond them. -/
structure Advances (c d : Checker) : Prop where
  tokens_eq : d.tokens = c.tokens
  le_cursor : c.cursor ≤ d.cursor
  cursor_le : d.cursor ≤ c.tokens.length

theorem Advances.trans {d' : Checker} (h : c.Advances d) (h' : d.Advances d') :
    c.Advances d' where
  tokens_eq := h'.tokens_eq.trans h.tokens_eq
  le_cursor := Nat.le_trans h.le_cursor h'.le_cursor
  cursor_le := h.tokens_eq ▸ h'.cursor_le

theorem call_advances (h : c.cursor ≤ c.tokens.length) (x : Call) : c.Advances (c.call x).2 := by
  cases x with
  | peek | atEnd => exact ⟨rfl, Nat.le_refl _, h⟩
  | read =>
    show c.Advances c.read.2
    unfold read
    split
    next t ht =>
      have hend : ¬ c.atEnd = true := by simp [← peek_eq_none_iff, ht]
      have hlt : c.cursor < c.tokens.length := by simpa [atEnd] using hend
      exact ⟨rfl, Nat.le_succ _, hlt⟩
    next => exact ⟨rfl, Nat.le_refl _, h⟩
  | check =>
    have hlength := c.length_rest
    refine ⟨rfl, Nat.le_add_right _ _, ?_⟩
    simp only [call, check]
    omega

theorem run_advances (h : c.cursor ≤ c.tokens.length) (calls : List Call) :
    c.Advances (c.run calls).2 := by
  induction calls generalizing c with
  | nil => exact ⟨rfl, Nat.le_refl _, h⟩
  | cons x calls ih =>
    have hcall := call_advances h x
    exact hcall.trans (ih (hcall.tokens_eq ▸ hcall.cursor_le))

/-- The checker after `n` checks. -/
def checks (c : Checker) (n : Nat) : Checker := (c.run (.replicate n .check)).2

theorem checks_succ (c : Checker) (n : Nat) : c.checks (n + 1) = c.check.2.checks n := rfl

/-- Once a check changes nothing, no later one does. -/
theorem check_checks (hd : d.check = (r, d)) (hc : c.check = (r, d)) (n : Nat) :
    (c.checks n).check = (r, d) := by
  induction n generalizing c with
  | zero => exact hc
  | succ n ih =>
    rw [checks_succ, hc]
    exact ih hd

/-- The number of `int` keywords from the cursor on. -/
def ints (c : Checker) : Nat := c.rest.countP fun t => t.kind = .intType

/-- A checker at rest: nothing is left, or the cursor is on the keyword of a type other than
`int`. -/
inductive AtRest (ts : List Token) : Except CheckError Unit → Nat → Prop
  | passed : AtRest ts (.ok ()) ts.length
  | string {j : Nat} {t : Token} : ts[j]? = some t → t.kind = .stringType →
      AtRest ts (.error ⟨.unimplemented .string, t.pos⟩) j
  | boolean {j : Nat} {t : Token} : ts[j]? = some t → t.kind = .booleanType →
      AtRest ts (.error ⟨.unimplemented .boolean, t.pos⟩) j

theorem AtRest.check_eq {ts : List Token} {j : Nat} (h : AtRest ts r j) :
    check ⟨ts, j⟩ = (r, ⟨ts, j⟩) := by
  cases h with
  | passed => exact check_of_passed (Nat.le_refl _) (by simp [rest])
  | string ht hk =>
    obtain ⟨before, after, rfl, hf⟩ := First.exists_of_getElem? ht
    exact check_of_string hf hk
  | boolean ht hk =>
    obtain ⟨before, after, rfl, hf⟩ := First.exists_of_getElem? ht
    exact check_of_boolean hf hk

/-- A check comes to rest, or it is an error that leaves a keyword `int` behind. -/
theorem check_cases (h : c.cursor ≤ c.tokens.length) :
    (∃ r j, c.check = (r, { c with cursor := j }) ∧ AtRest c.tokens r j) ∨
    (∃ e, c.check.1 = .error e) ∧ c.cursor < c.check.2.cursor ∧ c.check.2.ints < c.ints := by
  have hconcludes := check_concludes h
  have hcheck : c.check = (c.check.1, { c with cursor := c.check.2.cursor }) := rfl
  generalize c.check.1 = r, c.check.2.cursor = n at hconcludes hcheck
  cases hconcludes with
  | passed => exact .inl ⟨_, _, hcheck, .passed⟩
  | string hf ht => exact .inl ⟨_, _, hcheck, .string hf.getElem?_eq ht⟩
  | boolean hf ht => exact .inl ⟨_, _, hcheck, .boolean hf.getElem?_eq ht⟩
  | @int before after rest t _ e hf ht _ hj =>
    have hsuffix : rest <:+ c.tokens :=
      hj.isSuffix.trans ⟨before ++ [t], by simp [hf.eq_append]⟩
    have hrest : c.check.2.rest = rest := by
      rw [hcheck]
      exact (List.suffix_iff_eq_drop.mp hsuffix).symm
    refine .inr ⟨⟨e, rfl⟩, ?_, ?_⟩
    · have hle := hf.le_length
      have hlength := congrArg List.length hf.eq_append
      have hle' := hj.isSuffix.length_le
      rw [List.length_append, List.length_cons] at hlength
      omega
    · have hcount := hj.isSuffix.countP_le (p := fun t => t.kind = .intType)
      rw [ints, ints, hrest, rest_of_first hf, List.countP_append,
        List.countP_cons_of_pos (by simpa using ht)]
      omega

/-- Checks alone: some errors, each of which leaves a keyword `int` behind, then rest. -/
theorem exists_atRest (h : c.cursor ≤ c.tokens.length) : ∃ (k : Nat) (r : Except CheckError Unit)
    (j : Nat), k ≤ c.ints ∧
      (∀ n < k, (∃ e, (c.checks n).check.1 = .error e) ∧
        (c.checks n).cursor < (c.checks n).check.2.cursor) ∧
      (∀ n, k ≤ n → (c.checks n).check = (r, { c with cursor := j })) ∧ AtRest c.tokens r j := by
  -- By the number of keywords `int` that are left, which every error makes less.
  generalize hints : c.ints = m
  induction m using Nat.strongRecOn generalizing c with
  | ind m ih =>
    rcases check_cases h with ⟨r, j, hcheck, hrest⟩ | ⟨herror, hcursor, hless⟩
    · refine ⟨0, r, j, Nat.zero_le _, nofun, fun n _ => ?_, hrest⟩
      exact check_checks hrest.check_eq hcheck n
    · have hadvances : c.Advances c.check.2 := call_advances h .check
      obtain ⟨k, r, j, hk, hbefore, hafter, hrest⟩ :=
        ih _ (hints ▸ hless) (hadvances.tokens_eq ▸ hadvances.cursor_le) rfl
      refine ⟨k + 1, r, j, by omega, fun n hn => ?_, fun n hn => ?_, hrest⟩
      · cases n with
        | zero => exact ⟨herror, hcursor⟩
        | succ n => exact hbefore n (Nat.lt_of_succ_lt_succ hn)
      · cases n with
        | zero => omega
        | succ n => exact hafter n (Nat.le_of_succ_le_succ hn)

/-- Calls on a new checker move its cursor forward and never beyond the tokens, and no token is
given just in case the end is reached. From there on, checks alone give at most one error for each
`int` that is left, each of them further on, and then one verdict for ever with the cursor in one
place: at the end, or on the keyword of a type other than `int`. -/
theorem checks_come_to_rest {ts : List Token} {calls : List Call} {answers : List Answer}
    {c : Checker} (h : (mk ts 0).run calls = (answers, c)) :
    c.tokens = ts ∧ c.cursor ≤ ts.length ∧
    (∀ more : List Call, c.cursor ≤ (c.run more).2.cursor ∧ (c.run more).2.cursor ≤ ts.length) ∧
    (c.peek = none ↔ c.atEnd = true) ∧ (c.read.1 = none ↔ c.atEnd = true) ∧
    ∃ (k : Nat) (r : Except CheckError Unit) (j : Nat),
      k ≤ (ts.drop c.cursor).countP (fun t => t.kind = .intType) ∧
      (∀ n < k, (∃ e, (c.checks n).check.1 = .error e) ∧
        (c.checks n).cursor < (c.checks n).check.2.cursor) ∧
      (∀ n, k ≤ n → (c.checks n).check = (r, ⟨ts, j⟩)) ∧ AtRest ts r j := by
  have hrun := run_advances (c := ⟨ts, 0⟩) (Nat.zero_le _) calls
  rw [h] at hrun
  obtain rfl : c.tokens = ts := hrun.tokens_eq
  refine ⟨rfl, hrun.cursor_le, fun more => ?_, c.peek_eq_none_iff, c.read_eq_none_iff,
    exists_atRest hrun.cursor_le⟩
  have hmore := run_advances hrun.cursor_le more
  exact ⟨hmore.le_cursor, hmore.cursor_le⟩

/-- Two errors, each of which looks at the keyword of another type and passes it. -/
theorem checks_come_to_rest_past_keywords : ∃ (ts : List Token) (answers : List Answer),
    ts.map (·.kind) = [.newline, .intType, .stringType, .intType, .identifier, .booleanType] ∧
    (mk ts 0).run [.read, .peek] = (answers, ⟨ts, 1⟩) ∧
    (∀ more : List Call, 1 ≤ ((mk ts 1).run more).2.cursor ∧ ((mk ts 1).run more).2.cursor ≤ 6) ∧
    ((mk ts 1).peek = none ↔ (mk ts 1).atEnd = true) ∧
    ((mk ts 1).read.1 = none ↔ (mk ts 1).atEnd = true) ∧
    ((mk ts 1).checks 1).check = (.error ⟨.missingAssign .booleanType, ⟨2, 17⟩⟩, ⟨ts, 6⟩) ∧
    ∀ n, 2 ≤ n → ((mk ts 1).checks n).check = (.ok (), ⟨ts, 6⟩) := by
  obtain ⟨ts, hts⟩ : ∃ ts : List Token, ts = [⟨"m", ⟨1, 0⟩, .newline, "\\n"⟩,
    ⟨"m", ⟨2, 0⟩, .intType, "int"⟩, ⟨"m", ⟨2, 4⟩, .stringType, "string"⟩,
    ⟨"m", ⟨2, 11⟩, .intType, "int"⟩, ⟨"m", ⟨2, 15⟩, .identifier, "x"⟩,
    ⟨"m", ⟨2, 17⟩, .booleanType, "boolean"⟩] := ⟨_, rfl⟩
  have hrun : (mk ts 0).run [.read, .peek] = ([.token ts[0]?, .token ts[1]?], ⟨ts, 1⟩) := by
    rw [hts]
    rfl
  have hlast : ((mk ts 1).checks 1).check =
      (.error ⟨.missingAssign .booleanType, ⟨2, 17⟩⟩, ⟨ts, 6⟩) ∧
      ((mk ts 1).checks 2).check = (.ok (), ⟨ts, 6⟩) := by
    rw [hts]
    exact ⟨rfl, rfl⟩
  obtain ⟨-, -, hmore, hpeek, hread, k, r, j, hk, -, hafter, -⟩ := checks_come_to_rest hrun
  have hkinds : ts.map (·.kind) =
      [.newline, .intType, .stringType, .intType, .identifier, .booleanType] := by
    rw [hts]
    rfl
  have hlength : ts.length = 6 := by simpa using congrArg List.length hkinds
  have hk : k ≤ 2 := by
    rw [hts] at hk
    exact hk
  rw [hlength] at hmore
  rw [hafter 2 hk] at hlast
  refine ⟨ts, _, hkinds, hrun, hmore, hpeek, hread, hlast.1, fun n hn => ?_⟩
  rw [hafter n (Nat.le_trans hk hn), hlast.2]

end LuScan.Checker
