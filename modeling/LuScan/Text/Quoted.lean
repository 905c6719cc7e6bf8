import LuScan.Character.Unprintable

/-!
Quoted text: the mark and the backslash are escaped by a backslash, four controls have a letter of
their own, and any other unprintable character is written by its code point.
-/
namespace LuScan.Quoted

/-- The code point in lower-case hexadecimal, between braces. -/
def codePoint (c : Char) : List Char :=
  ['\\', 'u', '\x7b'] ++ Nat.toDigits 16 c.toNat ++ ['\x7d']

def escape (mark c : Char) : List Char :=
  if c = mark ∨ c = '\\' then ['\\', c]
  else if c = '\x00' then ['\\', '0']
  else if c = '\t' then ['\\', 't']
  else if c = '\r' then ['\\', 'r']
  else if c = '\n' then ['\\', 'n']
  else if isUnprintable c then codePoint c
  else [c]

def between (mark : Char) (cs : List Char) : List Char :=
  mark :: (cs.flatMap (escape mark) ++ [mark])

/-- Text between double quotes. -/
def text (s : String) : String := String.ofList (between '"' s.toList)

/-- A character between single quotes. -/
def character (c : Char) : String := String.ofList (between '\'' [c])

end LuScan.Quoted
