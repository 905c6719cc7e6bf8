/-! The kinds of tokens, their categories, names and fixed spellings. -/
namespace LuScan

inductive Category where
  | structural | literal | operator | control | type
  deriving DecidableEq, Repr

inductive Kind where
  | endOfInput | illegal | newline
  | semicolon | leftParen | rightParen | leftBrace | rightBrace | comma | quote
  | identifier | integer | text
  | plus | minus | times | divide | assign
  | ifWord | unlessWord | andWord | orWord | notWord | equalsWord | trueWord | falseWord
  | intType | stringType | booleanType
  deriving DecidableEq, Repr

namespace Kind

/-- Every kind once, in the order in which kinds are listed. -/
def all : List Kind := [
  endOfInput, illegal, newline,
  semicolon, leftParen, rightParen, leftBrace, rightBrace, comma, quote,
  identifier, integer, text,
  plus, minus, times, divide, assign,
  ifWord, unlessWord, andWord, orWord, notWord, equalsWord, trueWord, falseWord,
  intType, stringType, booleanType]

def category : Kind → Category
  | endOfInput | illegal | newline | semicolon | leftParen | rightParen
  | leftBrace | rightBrace | comma | quote => .structural
  | identifier | integer | text => .literal
  | plus | minus | times | divide | assign => .operator
  | ifWord | unlessWord | andWord | orWord | notWord | equalsWord | trueWord | falseWord => .control
  | intType | stringType | booleanType => .type

/-- The character that stands for the kind in a source. The quote has none: it opens a text. -/
def symbol? : Kind → Option Char
  | semicolon => some ';'
  | leftParen => some '('
  | rightParen => some ')'
  | leftBrace => some '\x7b'
  | rightBrace => some '\x7d'
  | comma => some ','
  | plus => some '+'
  | minus => some '-'
  | times => some '*'
  | divide => some '/'
  | assign => some '='
  | _ => none

/-- The word that stands for the kind in a source. -/
def keyword? : Kind → Option String
  | ifWord => some "if"
  | unlessWord => some "unless"
  | andWord => some "and"
  | orWord => some "or"
  | notWord => some "not"
  | equalsWord => some "equals"
  | trueWord => some "true"
  | falseWord => some "false"
  | intType => some "int"
  | stringType => some "string"
  | booleanType => some "boolean"
  | _ => none

/-- The name under which the kind is shown. -/
def name : Kind → String
  | endOfInput => "EOF"
  | illegal => "ILLEGAL"
  | newline => "LF"
  | semicolon => ";"
  | leftParen => "("
  | rightParen => ")"
  | leftBrace => "\x7b"
  | rightBrace => "\x7d"
  | comma => ","
  | quote => "\""
  | identifier => "IDENT"
  | integer => "INT"
  | text => "STRLITERAL"
  | plus => "+"
  | minus => "-"
  | times => "*"
  | divide => "/"
  | assign => "="
  | ifWord => "IF"
  | unlessWord => "UNLESS"
  | andWord => "AND"
  | orWord => "OR"
  | notWord => "NOT"
  | equalsWord => "EQUALS"
  | trueWord => "TRUE"
  | falseWord => "FALSE"
  | intType => "TYPEINT"
  | stringType => "TYPESTR"
  | booleanType => "TYPEBOOL"

theorem name_injective {k l : Kind} (h : k.name = l.name) : k = l := by
  revert h
  cases k <;> cases l <;> decide

def isKeyword (k : Kind) : Bool :=
  match k.category with
  | .control | .type => true
  | _ => false

theorem isKeyword_iff {k : Kind} :
    k.isKeyword = true ↔ k.category = .control ∨ k.category = .type := by
  unfold isKeyword
  split <;> simp_all

/-- A kind that a single character can be registered for: structural or an operator, but none that
the scanner gives by itself. -/
def isSymbol (k : Kind) : Bool :=
  match k with
  | endOfInput | illegal | newline => false
  | k => k.category == .structural || k.category == .operator

end Kind
end LuScan
