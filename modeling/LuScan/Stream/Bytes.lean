import LuScan.Stream.Fault
import LuScan.Text.Utf8

/-!
Byte streams as lists of deliveries. Empty chunks and interruptions pass unnoticed, an end report or
a failure is seen once, and after the last delivery the stream stays at its end.
-/
namespace LuScan

inductive Delivery where
  | bytes (chunk : List UInt8)
  | endReport
  | interrupted
  | failed (fault : Fault)
  deriving DecidableEq, Repr

abbrev ByteStream := List Delivery

namespace ByteStream

def ofBytes (bytes : List UInt8) : ByteStream := [.bytes bytes]

def ofText (text : String) : ByteStream := ofBytes (Utf8.encode text)

/-- The next byte, or nothing at an end report. -/
def next : ByteStream → Except Fault (Option UInt8) × ByteStream
  | [] => (.ok none, [])
  | .bytes [] :: rest => next rest
  | .bytes (b :: chunk) :: rest => (.ok (some b), .bytes chunk :: rest)
  | .endReport :: rest => (.ok none, rest)
  | .interrupted :: rest => next rest
  | .failed fault :: rest => (.error fault, rest)

/-- The next `n` bytes, which must come before the next end report. -/
def take : Nat → ByteStream → Except ReadError (List UInt8) × ByteStream
  | 0, s => (.ok [], s)
  | n + 1, s =>
    match s.next with
    | (.error fault, s) => (.error (.failed fault), s)
    | (.ok none, s) => (.error .truncated, s)
    | (.ok (some b), s) =>
      match take n s with
      | (.ok bs, s) => (.ok (b :: bs), s)
      | (.error e, s) => (.error e, s)

/-- The next character, or nothing at an end report. What was read of a character that fails is
lost. -/
def char (s : ByteStream) : Except ReadError (Option Char) × ByteStream :=
  match s.next with
  | (.error fault, s) => (.error (.failed fault), s)
  | (.ok none, s) => (.ok none, s)
  | (.ok (some lead), s) =>
    match Utf8.width? lead with
    | none => (.error .invalidLead, s)
    | some width =>
      match s.take (width - 1) with
      | (.error e, s) => (.error e, s)
      | (.ok tail, s) =>
        match Utf8.decode lead tail with
        | .ok c => (.ok (some c), s)
        | .error good => (.error (.illFormed good), s)

/-- One when something was read, else zero. -/
def got {ε α : Type} : Except ε (Option α) → Nat
  | .ok read => read.toList.length
  | .error _ => 0

@[simp] theorem got_ok {ε α : Type} (read : Option α) :
    got (.ok read : Except ε (Option α)) = read.toList.length := rfl

@[simp] theorem got_error {ε α : Type} (e : ε) : got (.error e : Except ε (Option α)) = 0 := rfl

/-- The number of bytes still to come. -/
def size : ByteStream → Nat
  | [] => 0
  | .bytes chunk :: rest => chunk.length + size rest
  | _ :: rest => size rest

@[simp] theorem size_nil : size [] = 0 := rfl

@[simp] theorem size_bytes (chunk : List UInt8) (rest : ByteStream) :
    size (.bytes chunk :: rest) = chunk.length + size rest := rfl

@[simp] theorem size_endReport (rest : ByteStream) : size (.endReport :: rest) = size rest := rfl

@[simp] theorem size_interrupted (rest : ByteStream) :
    size (.interrupted :: rest) = size rest := rfl

@[simp] theorem size_failed (fault : Fault) (rest : ByteStream) :
    size (.failed fault :: rest) = size rest := rfl

/-- A byte that is read is gone from the stream, and nothing else is. -/
theorem size_next (s : ByteStream) :
    s.size = s.next.2.size + got s.next.1 := by
  induction s using next.induct with
  | case1 => rfl
  | case2 rest ih => simpa [next] using ih
  | case3 b chunk rest => simp [next]; omega
  | case4 rest => simp [next]
  | case5 rest ih => simpa [next] using ih
  | case6 fault rest => simp [next]

theorem size_next_le (s : ByteStream) : s.next.2.size ≤ s.size := by
  rw [size_next s]
  omega

theorem size_take_le (n : Nat) (s : ByteStream) : (s.take n).2.size ≤ s.size := by
  induction n generalizing s with
  | zero => exact Nat.le_refl _
  | succ n ih =>
    have hs := size_next_le s
    unfold take
    split
    next h => simpa [h] using hs
    next h => simpa [h] using hs
    next t h =>
      have ht : t.size ≤ s.size := by simpa [h] using hs
      have := ih t
      split <;> simp_all <;> omega

/-- Every character costs at least a byte. -/
theorem size_char_le (s : ByteStream) :
    s.char.2.size + got s.char.1 ≤ s.size := by
  have hs := size_next s
  unfold char
  split
  next h => simp_all
  next h => simp_all
  next lead t h =>
    have hs : s.size = t.size + 1 := by simpa [h] using hs
    split
    · simp; omega
    · next width _ =>
      have ht := size_take_le (width - 1) t
      split
      next h => simp_all; omega
      next h =>
        rw [h] at ht
        split <;> simp at ht ⊢ <;> omega

end ByteStream
end LuScan
