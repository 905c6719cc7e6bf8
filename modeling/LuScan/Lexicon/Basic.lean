import LuScan.Character.Word
import LuScan.Lexicon.Error

/-!
Lexicons: which characters are symbols and which words are keywords. Control and type keywords have
a table each, and a word has an entry in one of them at most.
-/
namespace LuScan

structure Lexicon where
  symbols : List (Char × Kind)
  controls : List (String × Kind)
  types : List (String × Kind)
  deriving DecidableEq, Repr

namespace Lexicon

def empty : Lexicon := ⟨[], [], []⟩

/-- The entries of the kinds in a table. -/
def wordsOf (table : WordTable) (kinds : List Kind) : List (String × Kind) :=
  (kinds.filter (·.category == table.category)).filterMap fun k => k.keyword?.map (·, k)

/-- Every kind under its own spelling. -/
def standard : Lexicon where
  symbols := Kind.all.filterMap fun k => k.symbol?.map (·, k)
  controls := wordsOf .control Kind.all
  types := wordsOf .type Kind.all

def symbol? (l : Lexicon) (c : Char) : Option Kind := l.symbols.lookup c

def keyword? (l : Lexicon) (word : String) : Option Kind :=
  (l.controls.lookup word).or (l.types.lookup word)

def isTypeWord (l : Lexicon) (word : String) : Bool := (l.types.lookup word).isSome

/-- The kind of a word that was scanned. -/
def wordKind (l : Lexicon) (word : String) : Kind := (l.keyword? word).getD .identifier

/-- A character that no other token can start with, and that separates nothing. -/
def isFree (c : Char) : Bool := !(isBlank c || isWordStart c || isDigit c || c == quoteMark)

def addSymbol (l : Lexicon) (c : Char) (kind : Kind) : Except LexiconError Lexicon :=
  if !isFree c then .error (.invalidSymbol c)
  else if !kind.isSymbol then .error (.notASymbol kind)
  else match l.symbol? c with
    | some existing => .error (.symbolTaken c existing)
    | none => .ok { l with symbols := (c, kind) :: l.symbols }

/-- The lexicon with one more entry in a table, whatever it holds already. -/
def insertWord (l : Lexicon) (table : WordTable) (word : String) (kind : Kind) : Lexicon :=
  match table with
  | .control => { l with controls := (word, kind) :: l.controls }
  | .type => { l with types := (word, kind) :: l.types }

def addWord (l : Lexicon) (table : WordTable) (word : String) (kind : Kind) :
    Except LexiconError Lexicon :=
  if !isIdentifier word then .error (.invalidWord word)
  else if kind.category ≠ table.category then .error (.wrongCategory kind table)
  else match l.keyword? word with
    | some existing => .error (.wordTaken word existing)
    | none => .ok (l.insertWord table word kind)

/-- One entry to be made. -/
inductive Entry where
  | word (table : WordTable) (word : String) (kind : Kind)
  | symbol (symbol : Char) (kind : Kind)
  deriving DecidableEq, Repr

def add (l : Lexicon) : Entry → Except LexiconError Lexicon
  | .word table word kind => l.addWord table word kind
  | .symbol c kind => l.addSymbol c kind

/-- The lexicon after an entry, which is the same one when the entry is refused. -/
def attempt (l : Lexicon) (e : Entry) : Lexicon :=
  match l.add e with
  | .ok l => l
  | .error _ => l

@[simp] theorem symbol?_insertWord (l : Lexicon) (table : WordTable) (word : String) (kind : Kind) :
    (l.insertWord table word kind).symbol? = l.symbol? := by
  cases table <;> rfl

theorem keyword?_insertWord {l : Lexicon} {table : WordTable} {word : String} {kind : Kind}
    (h : l.keyword? word = none) (w : String) :
    (l.insertWord table word kind).keyword? w = if w = word then some kind else l.keyword? w := by
  obtain ⟨hc, ht⟩ := Option.or_eq_none_iff.mp h
  by_cases hw : w = word
  · subst hw
    cases table <;> simp [insertWord, keyword?, hc]
  · have hb : (w == word) = false := beq_false_of_ne hw
    cases table <;> simp [insertWord, keyword?, List.lookup_cons, hw, hb]

/-- What a character opens. -/
inductive Opening where
  | newline | symbol (kind : Kind) | digits | word | text | stray
  deriving DecidableEq, Repr

/-- A blank opens nothing. The line feed comes first and then the symbols, whatever other class they
belong to. -/
def opening? (l : Lexicon) (c : Char) : Option Opening :=
  if c = '\n' then some .newline
  else match l.symbol? c with
    | some kind => some (.symbol kind)
    | none =>
      if isBlank c then none
      else if isDigit c then some .digits
      else if isWordStart c then some .word
      else if c = quoteMark then some .text
      else some .stray

theorem isDigit_of_opening? {l : Lexicon} {c : Char} (h : l.opening? c = some .digits) :
    isDigit c = true := by
  unfold opening? at h
  grind

theorem isWordStart_of_opening? {l : Lexicon} {c : Char} (h : l.opening? c = some .word) :
    isWordStart c = true := by
  unfold opening? at h
  grind

end Lexicon
end LuScan
