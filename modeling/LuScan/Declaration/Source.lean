import LuScan.Declaration.Checker
import LuScan.Scan.Scanner

/-! Whole sources: scanned to the end, then checked. -/
namespace LuScan

inductive Failure where
  | scan (error : ScanError)
  | check (error : CheckError)
  deriving DecidableEq, Repr

namespace Failure

def pos : Failure → Position
  | scan error => error.pos
  | check error => error.pos

def message : Failure → String
  | scan error => error.message
  | check error => error.message

end Failure

/-- Nothing is checked before the source is scanned to its end. -/
def Scanner.check (s : Scanner) : Except Failure Unit :=
  match s.tokens with
  | .error e => .error (.scan e)
  | .ok tokens => (checkTokens tokens).mapError .check

def checkText (source text : String) : Except Failure Unit :=
  (Scanner.ofStream source .standard (.ofText text)).check

end LuScan
