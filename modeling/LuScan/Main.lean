import LuScan.Command.Outcome

/-! The command-line program: real files and standard input, and where an answer is printed. -/
namespace LuScan.Command

def usageText : String :=
  "Usage: luc [--source-name NAME] tokens [FILE]\n" ++
  "       luc [--source-name NAME] check [--dump-tokens] [FILE]\n" ++
  "       luc help [tokens|check] | --help | --version\n\n" ++
  "tokens prints every token of a source, check checks its assignment statements.\n" ++
  "Without FILE, or when FILE is -, the source is standard input.\n"

/-- A failure of the system in its own words, with its number. -/
def ioFault (e : IO.Error) : Fault :=
  let report (kind : FaultKind) (code : UInt32) (details : String) : Fault :=
    ⟨kind, details ++ " (os error " ++ code.toNat.repr ++ ")"⟩
  match e with
  | .noFileOrDirectory _ code details => report .notFound code details
  | .inappropriateType _ code details => report .notADirectory code details
  | .permissionDenied _ code details => report .permissionDenied code details
  | .invalidArgument _ code details | .resourceExhausted _ code details
  | .noSuchThing _ code details => report .other code details
  | .hardwareFault code details | .otherError code details => report .other code details
  | e => ⟨.other, toString e⟩

/-- Everything that a source delivers, up to its end or its first failure. -/
def readAll (read : USize → IO ByteArray) : IO ByteStream := do
  let mut stream : Array Delivery := #[]
  repeat
    try
      let chunk ← read 65536
      if chunk.isEmpty then break
      stream := stream.push (.bytes chunk.toList)
    catch
      | .interrupted .. => stream := stream.push .interrupted
      | e =>
        stream := stream.push (.failed (ioFault e))
        break
  return stream.toList

def openInput : Option String → IO (Except Fault ByteStream)
  | none => do return .ok (← readAll (← IO.getStdin).read)
  | some path => do
    try return .ok (← readAll (← IO.FS.Handle.mk path .read).read)
    catch e => return .error (ioFault e)

/-- Usage that was asked for is output, and any other is a report. -/
def Answer.print : Answer → IO UInt32
  | .usage exit => do
    (← if exit = 0 then IO.getStdout else IO.getStderr).putStr usageText
    return exit.toUInt32
  | .ran outcome => do
    (← IO.getStdout).putStr outcome.stdout
    (← IO.getStderr).putStr outcome.stderr
    return outcome.exit.toUInt32

end LuScan.Command

open LuScan.Command in
def main (args : List String) : IO UInt32 := do
  match Request.ofArgs args with
  | .error stop => (Answer.ofStop stop).print
  | .ok request => (Answer.ran (request.outcome (← openInput request.file))).print
