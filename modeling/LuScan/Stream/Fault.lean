/-! Failures of a byte stream, and what can go wrong while a character is read from one. -/
namespace LuScan

inductive FaultKind where
  | other | invalidData | unexpectedEnd | brokenPipe | timedOut | wouldBlock
  | permissionDenied | isADirectory | notFound | notADirectory | nameTooLong
  deriving DecidableEq, Repr

/-- A failure that the stream itself reports. -/
structure Fault where
  kind : FaultKind
  message : String
  deriving DecidableEq, Repr

/-- The reasons for which no character can be read. An ill-formed sequence tells how many of its
bytes some character's encoding starts with. -/
inductive ReadError where
  | failed (fault : Fault)
  | invalidLead
  | truncated
  | illFormed (good : Nat)
  deriving DecidableEq, Repr

namespace ReadError

def kind : ReadError → FaultKind
  | failed fault => fault.kind
  | _ => .invalidData

def message : ReadError → String
  | failed fault => fault.message
  | invalidLead => "invalid UTF-8 lead byte"
  | truncated => "truncated UTF-8 sequence"
  | illFormed good => "invalid utf-8 sequence of " ++ good.repr ++ " bytes from index 0"

end ReadError
end LuScan
