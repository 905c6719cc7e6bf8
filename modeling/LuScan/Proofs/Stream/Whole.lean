import LuScan.Proofs.Stream.Text

/-!
Sources as a whole. One that ends only after its last delivery is a text from its first byte to its
last, or it cannot be read.
-/
namespace LuScan

namespace ByteStream

variable {s t : ByteStream} {bytes : List UInt8}

end ByteStream

variable {stream : ByteStream}

end LuScan
