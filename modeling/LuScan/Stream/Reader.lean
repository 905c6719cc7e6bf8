import LuScan.Stream.Bytes

/-! Characters of a byte stream, with one of them held back at most. -/
namespace LuScan

structure Reader where
  stream : ByteStream
  /-- The character that was read last, as long as it can be pushed back. -/
  last : Option Char := none
  /-- The character that was pushed back and comes next. -/
  pending : Option Char := none
  deriving DecidableEq, Repr

namespace Reader

def ofStream (stream : ByteStream) : Reader := { stream }

/-- The next character, or nothing at an end report. A failure changes neither slot. -/
def read (r : Reader) : Except ReadError (Option Char) × Reader :=
  match r.pending with
  | some c => (.ok (some c), { r with last := some c, pending := none })
  | none =>
    match r.stream.char with
    | (.ok c, stream) => (.ok c, { r with stream := stream, last := c })
    | (.error e, stream) => (.error e, { r with stream := stream })

/-- Pushes the last character back, unless one is pending already or none was read. -/
def unread (r : Reader) : Bool × Reader :=
  match r.pending, r.last with
  | none, some c => (true, { r with last := none, pending := some c })
  | _, _ => (false, r)

/-- An upper bound for the characters still to come. -/
def size (r : Reader) : Nat := r.stream.size + r.pending.toList.length

theorem size_read_le (r : Reader) :
    r.read.2.size + ByteStream.got r.read.1 ≤ r.size := by
  have hs := ByteStream.size_char_le r.stream
  unfold read
  split
  next c h => simp [size, h]
  next h => split <;> simp_all [size]

/-- A character that was just read can be pushed back. -/
theorem unread_of_read {r s : Reader} {c : Char} (h : r.read = (.ok (some c), s)) :
    s.unread = (true, { s with last := none, pending := some c }) := by
  unfold read at h
  split at h
  next => cases h; rfl
  next hp =>
    split at h
    · cases h; simp [unread, hp]
    · cases h

/-- Pushed back, it is what the next read gives, and leaves the reader as it was. -/
theorem read_of_pending {r s : Reader} {c : Char} (h : r.read = (.ok (some c), s)) :
    read { s with last := none, pending := some c } = (.ok (some c), s) := by
  unfold read at h
  split at h
  · cases h
    rfl
  next hp =>
    split at h
    · cases h
      simp only [read, hp]
    · cases h

end Reader
end LuScan
