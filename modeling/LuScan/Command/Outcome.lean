import LuScan.Command.Arguments
import LuScan.Declaration.Source

/-! What a run prints and how it ends. -/
namespace LuScan.Command

structure Outcome where
  exit : Nat
  stdout : String
  stderr : String
  deriving DecidableEq, Repr

/-- A source that is no good, and a source that cannot be read. -/
def exitInvalid : Nat := 1
def exitFatal : Nat := 2

namespace Request

/-- The name stamped on tokens and reports. -/
def sourceName (r : Request) : String := r.name.getD (r.file.getD "<stdin>")

/-- The outcome on a source that could be opened, or not. Nothing is printed of a source that fails
before its end. -/
def outcome (r : Request) (input : Except Fault ByteStream) : Outcome :=
  match input with
  | .error fault => ⟨exitFatal, "", "error: failed to open source: " ++ fault.message ++ "\n"⟩
  | .ok stream =>
    match (Scanner.ofStream r.sourceName .standard stream).tokens with
    | .error e => ⟨exitFatal, "", "error: " ++ r.sourceName ++ ": " ++ e.message ++ "\n"⟩
    | .ok tokens =>
      match r.mode with
      | .tokens => ⟨0, Token.dump tokens, ""⟩
      | .check dump =>
        let shown := if dump then Token.dump tokens else ""
        match checkTokens tokens with
        | .ok () => ⟨0, shown ++ "valid\n", ""⟩
        | .error e =>
          -- The name comes from the tokens, not from the request.
          let source := (tokens.head?.map Token.source).getD ""
          ⟨exitInvalid, shown,
            "error: " ++ source ++ ":" ++ e.pos.text ++ ": " ++ e.cause.message ++ "\n"⟩

end Request

def version : String := "luc 0.1.0\n"

/-- An answer to a command line: a text on usage, or what a run printed. -/
inductive Answer where
  | usage (exit : Nat)
  | ran (outcome : Outcome)
  deriving DecidableEq, Repr

def Answer.ofStop : Stop → Answer
  | .help => .usage 0
  | .misuse => .usage exitFatal
  | .version => .ran ⟨0, version, ""⟩

end LuScan.Command
