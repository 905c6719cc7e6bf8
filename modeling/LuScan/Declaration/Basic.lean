import LuScan.Token.Kind
import LuScan.Token.Position

/-! Declared types, and what a check of declarations finds fault with. -/
namespace LuScan

inductive DeclType where
  | int | string | boolean
  deriving DecidableEq, Repr

namespace DeclType

/-- The type that a keyword declares. -/
def ofKind? : Kind → Option DeclType
  | .intType => some int
  | .stringType => some string
  | .booleanType => some boolean
  | _ => none

def name : DeclType → String
  | int => "int"
  | string => "string"
  | boolean => "boolean"

end DeclType

inductive CheckCause where
  | missingIdentifier (found : Kind)
  | missingAssign (found : Kind)
  | typeMismatch (expected : DeclType) (found : Kind)
  | unexpectedEnd
  | unimplemented (type : DeclType)
  deriving DecidableEq, Repr

def CheckCause.message : CheckCause → String
  | missingIdentifier found => "missing identifier after type keyword, found " ++ found.name
  | missingAssign found => "expected assignment operator, found " ++ found.name
  | typeMismatch expected found =>
    "tried to assign " ++ found.name ++ " to " ++ expected.name ++ ", expected an integer literal"
  | unexpectedEnd => "unexpected end of input"
  | unimplemented type => type.name ++ " assignments are not implemented"

structure CheckError where
  cause : CheckCause
  pos : Position
  deriving DecidableEq, Repr

namespace CheckError

def message (e : CheckError) : String :=
  "parse error at " ++ e.pos.text ++ ": " ++ e.cause.message

/-- The declaration is not at fault: assignments of its type are not implemented. -/
def isUnimplemented (e : CheckError) : Bool :=
  match e.cause with
  | .unimplemented _ => true
  | _ => false

end CheckError
end LuScan
