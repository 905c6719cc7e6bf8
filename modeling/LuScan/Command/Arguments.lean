/-!
Command-line arguments. They act from left to right: help and version as soon as they are met, a
fault as soon as it is found.
-/
namespace LuScan.Command

inductive Mode where
  | tokens
  | check (dump : Bool)
  deriving DecidableEq, Repr

/-- A run that was asked for: on a file or on standard input, under a name of its own or not. -/
structure Request where
  mode : Mode
  file : Option String
  name : Option String
  deriving DecidableEq, Repr

/-- Why the arguments ask for no run. -/
inductive Stop where
  | help | misuse | version
  deriving DecidableEq, Repr

/-- How an argument reads. A dash alone is plain. -/
inductive Argument where
  | dashes
  | long (name : String) (value : Option String)
  | short (letter : Char)
  | plain (word : String)
  deriving DecidableEq, Repr

/-- A long option is cut at its first equals sign; of a group of short ones the first decides. -/
def Argument.ofString (s : String) : Argument :=
  match s.toList with
  | ['-', '-'] => .dashes
  | '-' :: '-' :: cs =>
    match cs.dropWhile (· != '=') with
    | [] => .long (String.ofList cs) none
    | _ :: value => .long (String.ofList (cs.takeWhile (· != '='))) (some (String.ofList value))
  | '-' :: c :: _ => .short c
  | _ => .plain s

/-- A word that can be the value of the option before it. -/
def isValue (s : String) : Bool :=
  match Argument.ofString s with
  | .plain _ => true
  | _ => false

inductive Subcommand where
  | tokens | check
  deriving DecidableEq, Repr

/-- What the arguments of a subcommand have set so far. -/
structure Settings where
  file : Option String := none
  name : Option String := none
  dump : Bool := false
  deriving DecidableEq, Repr

namespace Settings

def setFile (s : Settings) (file : String) : Except Stop Settings :=
  if file = "" ∨ s.file.isSome then .error .misuse else .ok { s with file := some file }

def setName (s : Settings) (name : String) : Except Stop Settings :=
  if s.name.isSome then .error .misuse else .ok { s with name := some name }

def setDump (s : Settings) (sub : Subcommand) : Except Stop Settings :=
  if sub = .check ∧ s.dump = false then .ok { s with dump := true } else .error .misuse

def setFiles : Settings → List String → Except Stop Settings
  | s, [] => .ok s
  | s, file :: rest => do setFiles (← s.setFile file) rest

/-- The settings after all arguments of a subcommand. -/
def read (sub : Subcommand) (s : Settings) : List String → Except Stop Settings
  | [] => .ok s
  | arg :: rest =>
    match Argument.ofString arg with
    | .plain file => do read sub (← s.setFile file) rest
    | .dashes => s.setFiles rest
    | .short letter => .error (if letter = 'h' then .help else .misuse)
    | .long "help" none => .error .help
    | .long "dump-tokens" none => do read sub (← s.setDump sub) rest
    | .long "source-name" (some name) => do read sub (← s.setName name) rest
    | .long "source-name" none =>
      match rest with
      | name :: rest => if isValue name then do read sub (← s.setName name) rest else .error .misuse
      | [] => .error .misuse
    | .long _ _ => .error .misuse

/-- A file that is a dash is standard input. The subcommand's name goes before the outer one. -/
def request (s : Settings) (sub : Subcommand) (outer : Option String) : Request where
  mode := match sub with
    | .tokens => .tokens
    | .check => .check s.dump
  file := s.file.filter (· != "-")
  name := s.name.or outer

end Settings

/-- A source name given before the subcommand. One that stands apart from its option waits for the
next option, or for the end of the subcommand, before it counts. -/
structure OuterName where
  settled : Option String := none
  waiting : Option String := none
  deriving DecidableEq, Repr

namespace OuterName

def settle (n : OuterName) : Except Stop (Option String) :=
  match n.settled, n.waiting with
  | some _, some _ => .error .misuse
  | settled, waiting => .ok (settled.or waiting)

def attach (n : OuterName) (name : String) : Except Stop OuterName := do
  match ← n.settle with
  | some _ => .error .misuse
  | none => .ok { settled := some name }

def await (n : OuterName) (name : String) : Except Stop OuterName := do
  return { settled := ← n.settle, waiting := some name }

end OuterName

def subcommand (sub : Subcommand) (outer : OuterName) (args : List String) :
    Except Stop Request := do
  let settings ← Settings.read sub {} args
  return settings.request sub (← outer.settle)

def helpOn : List String → Stop
  | [] => .help
  | [topic] => if topic ∈ ["tokens", "check", "help"] then .help else .misuse
  | _ => .misuse

def readFrom (outer : OuterName) : List String → Except Stop Request
  | [] => .error .misuse
  | arg :: rest =>
    match Argument.ofString arg with
    | .plain "tokens" => subcommand .tokens outer rest
    | .plain "check" => subcommand .check outer rest
    | .plain "help" => .error (helpOn rest)
    | .plain _ => .error .misuse
    | .dashes => .error .misuse
    | .short 'h' => do let _ ← outer.settle; .error .help
    | .short 'V' => do let _ ← outer.settle; .error .version
    | .short _ => .error .misuse
    | .long "help" none => do let _ ← outer.settle; .error .help
    | .long "version" none => do let _ ← outer.settle; .error .version
    | .long "source-name" (some name) => do readFrom (← outer.attach name) rest
    | .long "source-name" none =>
      match rest with
      | name :: rest =>
        if isValue name then do readFrom (← outer.await name) rest else .error .misuse
      | [] => .error .misuse
    | .long _ _ => .error .misuse

def Request.ofArgs (args : List String) : Except Stop Request := readFrom {} args

end LuScan.Command
