import LuScan.Character.Range

/-!
UTF-8, read one character at a time: the lead byte tells the width, the second byte has a range of
its own after some leads, and every byte after it is a continuation byte.
-/
namespace LuScan.Utf8

/-- The bytes of a text. -/
def encode (text : String) : List UInt8 := text.toList.flatMap String.utf8EncodeChar

/-- The number of bytes that a lead byte announces; the other bytes lead nothing. -/
def width? (lead : UInt8) : Option Nat :=
  if lead ≤ 0x7F then some 1
  else if 0xC2 ≤ lead ∧ lead ≤ 0xDF then some 2
  else if 0xE0 ≤ lead ∧ lead ≤ 0xEF then some 3
  else if 0xF0 ≤ lead ∧ lead ≤ 0xF4 then some 4
  else none

def continuation : CodeRange := ⟨0x80, 0xBF⟩

/-- What may follow a lead byte: after `E0` and `F0` no overlong form, after `ED` no surrogate,
after `F4` nothing above the last code point. -/
def second (lead : UInt8) : CodeRange :=
  if lead = 0xE0 then ⟨0xA0, 0xBF⟩
  else if lead = 0xED then ⟨0x80, 0x9F⟩
  else if lead = 0xF0 then ⟨0x90, 0xBF⟩
  else if lead = 0xF4 then ⟨0x80, 0x8F⟩
  else continuation

/-- The number of tail bytes that fit: the first within `range`, the others continuation bytes. -/
def fitting (range : CodeRange) : List UInt8 → Nat
  | [] => 0
  | b :: bs => if range.contains b.toNat then fitting continuation bs + 1 else 0

/-- The code point that the payload bits of a lead byte and its tail spell. A lead byte has one bit
less of payload for each byte after it. -/
def value (lead : UInt8) (tail : List UInt8) : Nat :=
  let high := if tail.isEmpty then lead.toNat else lead.toNat % (64 >>> tail.length)
  tail.foldl (fun acc b => acc * 64 + b.toNat % 64) high

/-- The character encoded by a lead byte and the tail it announced, or the number of bytes from the
lead on that some encoding starts with. -/
def decode (lead : UInt8) (tail : List UInt8) : Except Nat Char :=
  let fit := fitting (second lead) tail
  if fit = tail.length then .ok (Char.ofNat (value lead tail)) else .error (fit + 1)

end LuScan.Utf8
