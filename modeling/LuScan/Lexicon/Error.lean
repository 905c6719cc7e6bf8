import LuScan.Text.Quoted
import LuScan.Token.Kind

/-! The tables of keywords, and the reasons for which an entry is refused. -/
namespace LuScan

inductive WordTable where
  | control | type
  deriving DecidableEq, Repr

namespace WordTable

/-- The category of the kinds that the table holds. -/
def category : WordTable → Category
  | control => .control
  | type => .type

def name : WordTable → String
  | control => "control"
  | type => "type"

end WordTable

inductive LexiconError where
  | invalidWord (word : String)
  | wordTaken (word : String) (existing : Kind)
  | wrongCategory (kind : Kind) (table : WordTable)
  | invalidSymbol (symbol : Char)
  | symbolTaken (symbol : Char) (existing : Kind)
  | notASymbol (kind : Kind)
  deriving DecidableEq, Repr

namespace LexiconError

def message : LexiconError → String
  | invalidWord word => "'" ++ word ++ "' is not a valid keyword spelling"
  | wordTaken word existing => "keyword '" ++ word ++ "' is already mapped to " ++ existing.name
  | wrongCategory kind table => kind.name ++ " cannot be used as a " ++ table.name ++ " keyword"
  | invalidSymbol symbol => Quoted.character symbol ++ " cannot be a terminal symbol"
  | symbolTaken symbol existing =>
    "terminal " ++ Quoted.character symbol ++ " is already mapped to " ++ existing.name
  | notASymbol kind => kind.name ++ " is not a single-character token"

end LexiconError
end LuScan
