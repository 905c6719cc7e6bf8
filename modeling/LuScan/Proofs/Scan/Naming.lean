import LuScan.Proofs.Scan.Failure

/-!
Scans of one stream under two names. The name of a source is stamped on its tokens and decides
nothing else.
-/
namespace LuScan

/-- The token under another name of its source. -/
def Token.named (name : String) (t : Token) : Token := { t with source := name }

namespace Head

end Head

namespace Scanner

variable {s : Scanner} {ts : List Token} (name : String)

/-- The scanner under another name of its source. -/
def named (s : Scanner) : Scanner := { s with source := name }

end Scanner
end LuScan
