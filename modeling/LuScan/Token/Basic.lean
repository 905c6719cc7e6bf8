import LuScan.Text.Quoted
import LuScan.Token.Kind
import LuScan.Token.Position

/-! Tokens: where a lexeme stands, what kind it has and how it reads. -/
namespace LuScan

structure Token where
  source : String
  pos : Position
  kind : Kind
  literal : String
  deriving DecidableEq, Repr

namespace Token

/-- The literal of a line feed: a backslash and the letter n. -/
def newlineMarker : String := "\\n"

/-- The characters of the source that the token covers. -/
def sourceText (t : Token) : String :=
  if t.kind = .newline then "\n" else t.literal

@[simp] theorem sourceText_of_newline {t : Token} (h : t.kind = .newline) :
    t.sourceText = "\n" := if_pos h

theorem sourceText_of_ne {t : Token} (h : t.kind ≠ .newline) : t.sourceText = t.literal :=
  if_neg h

/-- All of the token in one text: the source as it is, the literal quoted. -/
def render (t : Token) : String :=
  t.source ++ ":" ++ t.pos.text ++ " " ++ t.kind.name ++ " " ++ Quoted.text t.literal

/-- The characters that a list of tokens covers. -/
def joined (ts : List Token) : String := String.join (ts.map sourceText)

/-- The tokens one after another, each ended by a line feed. -/
def dump (ts : List Token) : String := String.join (ts.map fun t => t.render ++ "\n")

end Token
end LuScan
