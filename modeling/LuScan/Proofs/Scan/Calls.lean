import LuScan.Scan.Scanner

/-! Calls on one scanner in any order: scans, which never end, and pulls, which do. -/
namespace LuScan

inductive Call where
  | scan | pull
  deriving DecidableEq, Repr

namespace Scanner

/-- The answer to a call, which is a result unless the call is a pull and nothing is left for it. -/
def call (s : Scanner) : Call → Option (Except ScanError Token) × Scanner
  | .scan => (some s.scan.1, s.scan.2)
  | .pull => s.pull

/-- The answers to calls one after another, and the scanner after them. -/
def run (s : Scanner) : List Call → List (Option (Except ScanError Token)) × Scanner
  | [] => ([], s)
  | c :: calls =>
    let answer := s.call c
    let rest := answer.2.run calls
    (answer.1 :: rest.1, rest.2)

variable {s t : Scanner} {c : Call} {answer : Option (Except ScanError Token)}

theorem run_cons (calls : List Call) (h : s.call c = (answer, t)) :
    s.run (c :: calls) = (answer :: (t.run calls).1, (t.run calls).2) := by
  rw [run, h]

/-- A call without an answer changes nothing, and any other call scans once. -/
theorem call_cases (h : s.call c = (answer, t)) : answer = none ∧ t = s ∨
    ∃ r, answer = some r ∧ s.head.scan s.lexicon s.source = (r, t.head) ∧
      t.lexicon = s.lexicon ∧ t.source = s.source := by
  cases c with
  | scan =>
    cases h
    exact .inr ⟨_, rfl, rfl, rfl, rfl⟩
  | pull =>
    simp only [call, pull] at h
    split at h
    · cases h
      exact .inl ⟨rfl, rfl⟩
    · cases h
      exact .inr ⟨_, rfl, rfl, rfl, rfl⟩

end Scanner
end LuScan
