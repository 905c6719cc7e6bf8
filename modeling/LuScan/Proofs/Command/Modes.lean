import LuScan.Command.Outcome
import LuScan.Proofs.Declaration.Source
import LuScan.Proofs.Scan.Naming
import LuScan.Proofs.Stream.Whole

/-!
Runs on one source in all modes. Whether the source can be read and what is found in it is the same
for all of them, so they print parts of the same and end alike.
-/
namespace LuScan

namespace Command

namespace Request

/-- The same run in another mode. -/
def inMode (r : Request) (mode : Mode) : Request := { r with mode := mode }

variable {r q : Request} {input : Except Fault ByteStream} {stream : ByteStream}
  {tokens : List Token}

@[simp] theorem mode_inMode (r : Request) (mode : Mode) : (r.inMode mode).mode = mode := rfl

end Request
end Command
end LuScan
