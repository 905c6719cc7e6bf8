import LuScan.Stream.Reader

/-! Calls on one reader in any order: reads and pushbacks. -/
namespace LuScan.Reader

inductive Call where
  | read | unread
  deriving DecidableEq, Repr

/-- What a read gave, or whether something was pushed back. -/
inductive Answer where
  | read (result : Except ReadError (Option Char))
  | unread (done : Bool)

def call (r : Reader) : Call → Answer × Reader
  | .read => (.read r.read.1, r.read.2)
  | .unread => (.unread r.unread.1, r.unread.2)

/-- The answers to calls one after another, and the reader after them. -/
def run (r : Reader) : List Call → List Answer × Reader
  | [] => ([], r)
  | c :: calls =>
    let answer := r.call c
    let rest := answer.2.run calls
    (answer.1 :: rest.1, rest.2)

end LuScan.Reader
