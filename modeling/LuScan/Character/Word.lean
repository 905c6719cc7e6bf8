import LuScan.Character.Letter
import LuScan.Character.Digit
import LuScan.Character.Blank

/-! Characters of words, the shape of an identifier, and how the character classes lie apart. -/
namespace LuScan

/-- The mark that opens and closes a text. -/
def quoteMark : Char := '"'

def isWordStart (c : Char) : Bool := isLetter c || c == '_'

def isWordPart (c : Char) : Bool := isLetter c || isDigit c || c == '_'

/-- A word start followed by word parts. -/
def isIdentifier (word : String) : Bool :=
  match word.toList with
  | [] => false
  | c :: cs => isWordStart c && cs.all isWordPart

theorem isWordPart_of_isWordStart {c : Char} (h : isWordStart c = true) : isWordPart c = true := by
  unfold isWordStart at h
  unfold isWordPart
  cases hl : isLetter c <;> simp_all

theorem isWordPart_of_isDigit {c : Char} (h : isDigit c = true) : isWordPart c = true := by
  simp [isWordPart, h]

theorem isLetter_eq_false_of_isDigit {c : Char} (h : isDigit c = true) : isLetter c = false :=
  inRanges_eq_false_of_apart (by decide +kernel) h

theorem isLetter_eq_false_of_isBlank {c : Char} (h : isBlank c = true) : isLetter c = false :=
  inRanges_eq_false_of_apart (by decide +kernel) h

theorem isDigit_eq_false_of_isBlank {c : Char} (h : isBlank c = true) : isDigit c = false :=
  inRanges_eq_false_of_apart (by decide +kernel) h

/-- A digit continues a word but never starts one. -/
theorem isWordStart_eq_false_of_isDigit {c : Char} (h : isDigit c = true) :
    isWordStart c = false := by
  have hne : c ≠ '_' := by
    rintro rfl
    exact absurd h (by decide +kernel)
  simp [isWordStart, isLetter_eq_false_of_isDigit h, hne]

theorem isWordPart_eq_false_of_isBlank {c : Char} (h : isBlank c = true) :
    isWordPart c = false := by
  have hne : c ≠ '_' := by
    rintro rfl
    exact absurd h (by decide +kernel)
  simp [isWordPart, isLetter_eq_false_of_isBlank h, isDigit_eq_false_of_isBlank h, hne]

theorem isBlank_newline : isBlank '\n' = true := by decide +kernel

theorem isBlank_eq_false_of_isWordPart {c : Char} (h : isWordPart c = true) :
    isBlank c = false := by
  cases hb : isBlank c with
  | false => rfl
  | true => simp [isWordPart_eq_false_of_isBlank hb] at h

theorem isDigit_eq_false_of_isWordStart {c : Char} (h : isWordStart c = true) :
    isDigit c = false := by
  cases hd : isDigit c with
  | false => rfl
  | true => simp [isWordStart_eq_false_of_isDigit hd] at h

theorem ne_newline_of_isWordPart {c : Char} (h : isWordPart c = true) : c ≠ '\n' := by
  rintro rfl
  simp [isWordPart_eq_false_of_isBlank isBlank_newline] at h

theorem isWordPart_quoteMark : isWordPart quoteMark = false := by decide +kernel

end LuScan
