import LuScan.Declaration.Basic
import LuScan.Token.Basic

/-!
Checks of the declarations in a token list. A check goes on from where the one before it stopped: it
passes all tokens up to a type keyword, and that keyword decides.
-/
namespace LuScan

namespace Declaration

/-- The integer of an `int` declaration, after an optional sign. -/
def integer (keyword : Token) (last : Position) : List Token → CheckError × List Token
  | [] => (⟨.unexpectedEnd, last⟩, [])
  | t :: rest =>
    if t.kind = .integer then (⟨.unimplemented .int, keyword.pos⟩, rest)
    else (⟨.typeMismatch .int t.kind, t.pos⟩, rest)

def value (keyword : Token) (last : Position) : List Token → CheckError × List Token
  | [] => (⟨.unexpectedEnd, last⟩, [])
  | t :: rest =>
    if t.kind = .minus then integer keyword last rest else integer keyword last (t :: rest)

def assignment (keyword : Token) (last : Position) : List Token → CheckError × List Token
  | [] => (⟨.unexpectedEnd, last⟩, [])
  | t :: rest =>
    if t.kind = .assign then value keyword last rest else (⟨.missingAssign t.kind, t.pos⟩, rest)

/-- The verdict on an `int` declaration after its keyword, and the tokens after the last one that
was looked at. `last` is the position to report when tokens are missing. -/
def int (keyword : Token) (last : Position) : List Token → CheckError × List Token
  | [] => (⟨.unexpectedEnd, last⟩, [])
  | t :: rest =>
    if t.kind = .identifier then assignment keyword last rest
    else (⟨.missingIdentifier t.kind, t.pos⟩, rest)

/-- The verdict on the first declaration of a list, and the tokens that stay. A declaration of
another type stays itself. -/
def verdict (last : Position) : List Token → Except CheckError Unit × List Token
  | [] => (.ok (), [])
  | t :: rest =>
    match DeclType.ofKind? t.kind with
    | none => verdict last rest
    | some .int =>
      let r := int t last rest
      (.error r.1, r.2)
    | some type => (.error ⟨.unimplemented type, t.pos⟩, t :: rest)

end Declaration

structure Checker where
  tokens : List Token
  /-- The number of tokens passed. -/
  cursor : Nat := 0
  deriving DecidableEq, Repr

namespace Checker

def rest (c : Checker) : List Token := c.tokens.drop c.cursor

def peek (c : Checker) : Option Token := c.rest.head?

def read (c : Checker) : Option Token × Checker :=
  match c.peek with
  | some t => (some t, { c with cursor := c.cursor + 1 })
  | none => (none, c)

def atEnd (c : Checker) : Bool := decide (c.tokens.length ≤ c.cursor)

/-- The position of the last token. -/
def lastPos (c : Checker) : Position := (c.tokens.getLast?.map (·.pos)).getD .start

def check (c : Checker) : Except CheckError Unit × Checker :=
  let r := Declaration.verdict c.lastPos c.rest
  (r.1, { c with cursor := c.cursor + (c.rest.length - r.2.length) })

end Checker

/-- The verdict on all tokens from the first. -/
def checkTokens (tokens : List Token) : Except CheckError Unit := (Checker.mk tokens 0).check.1

end LuScan
