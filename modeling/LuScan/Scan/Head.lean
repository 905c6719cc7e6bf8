import LuScan.Character.Word
import LuScan.Stream.Reader
import LuScan.Token.Position

/-! The reading head: a reader and the position of the character that comes next. -/
namespace LuScan

inductive ScanCause where
  | stream (error : ReadError)
  | pushback
  deriving DecidableEq, Repr

structure ScanError where
  cause : ScanCause
  pos : Position
  deriving DecidableEq, Repr

def ScanCause.message : ScanCause → String
  | .stream error => "failed to read source: " ++ error.message
  | .pushback => "source stream refused to push back a character"

def ScanError.message (e : ScanError) : String :=
  "lex error at " ++ e.pos.text ++ ": " ++ e.cause.message

structure Head where
  reader : Reader
  pos : Position := .start
  deriving DecidableEq, Repr

namespace Head

/-- The next character, which does not count as passed yet. -/
def read (h : Head) : Except ScanError (Option Char) × Head :=
  match h.reader.read with
  | (.ok c, reader) => (.ok c, { h with reader := reader })
  | (.error e, reader) => (.error ⟨.stream e, h.pos⟩, { h with reader := reader })

def unread (h : Head) : Except ScanError Unit × Head :=
  match h.reader.unread with
  | (true, reader) => (.ok (), { h with reader := reader })
  | (false, reader) => (.error ⟨.pushback, h.pos⟩, { h with reader := reader })

/-- Passes a character that was read. -/
def advance (h : Head) (c : Char) : Head := { h with pos := h.pos.advance c }

def size (h : Head) : Nat := h.reader.size

@[simp] theorem reader_advance (h : Head) (c : Char) : (h.advance c).reader = h.reader := rfl

@[simp] theorem pos_advance (h : Head) (c : Char) : (h.advance c).pos = h.pos.advance c := rfl

@[simp] theorem size_advance (h : Head) (c : Char) : (h.advance c).size = h.size := rfl

theorem size_read_le (h : Head) : h.read.2.size + ByteStream.got h.read.1 ≤ h.size := by
  have hs := h.reader.size_read_le
  unfold read
  split <;> simp_all [size]

theorem size_lt_of_read {h t : Head} {c : Char} (hr : h.read = (.ok (some c), t)) :
    t.size < h.size := by
  have hs := h.size_read_le
  simp only [hr, ByteStream.got_ok, Option.toList_some, List.length_singleton] at hs
  omega

theorem size_advance_lt_of_read {h t : Head} {c : Char} (hr : h.read = (.ok (some c), t)) :
    (t.advance c).size < h.size := by simpa using size_lt_of_read hr

theorem size_le_of_read {h t : Head} {r : Except ScanError (Option Char)}
    (hr : h.read = (r, t)) : t.size ≤ h.size := by
  have hs := h.size_read_le
  simp only [hr] at hs
  omega

/-- What was just read can be pushed back, which leaves the head where it was. -/
theorem unread_of_read {h t : Head} {c : Char} (hr : h.read = (.ok (some c), t)) :
    t.unread = (.ok (), ⟨{ t.reader with last := none, pending := some c }, t.pos⟩) := by
  unfold read at hr
  split at hr
  next h' =>
    cases hr
    simp [unread, Reader.unread_of_read h']
  next => cases hr

/-- The next read gives it again, and the head is what it was. -/
theorem exists_unread {h t : Head} {c : Char} (hr : h.read = (.ok (some c), t)) :
    ∃ u, t.unread = (.ok (), u) ∧ u.read = (.ok (some c), t) := by
  refine ⟨_, unread_of_read hr, ?_⟩
  rcases hread : h.reader.read with ⟨result, r⟩
  unfold read at hr ⊢
  rw [hread] at hr
  cases result with
  | error e => cases hr
  | ok found =>
    cases hr
    rw [Reader.read_of_pending hread]

theorem size_unread_le (h : Head) : h.unread.2.size ≤ h.size + 1 := by
  unfold unread Reader.unread
  cases hp : h.reader.pending <;> cases hl : h.reader.last <;> simp [size, Reader.size, hp]

/-- Reads on while characters are accepted, and pushes the first other one back. The characters come
after those of `acc`, which is in reverse. -/
def run (accept : Char → Bool) (acc : List Char) (h : Head) :
    Except ScanError (List Char) × Head :=
  match _ : h.read with
  | (.error e, t) => (.error e, t)
  | (.ok none, t) => (.ok acc.reverse, t)
  | (.ok (some c), t) =>
    if accept c then run accept (c :: acc) (t.advance c)
    else match t.unread with
      | (.ok (), t) => (.ok acc.reverse, t)
      | (.error e, t) => (.error e, t)
termination_by h.size
decreasing_by exact size_advance_lt_of_read ‹_›

/-- Pushes the last character back, and reads it again with those after it that are accepted. -/
def rerun (accept : Char → Bool) (h : Head) : Except ScanError (List Char) × Head :=
  match h.unread with
  | (.ok (), t) => t.run accept []
  | (.error e, t) => (.error e, t)

/-- Reads through the next quote mark, and tells whether there was one before the end. -/
def quoted (acc : List Char) (h : Head) : Except ScanError (List Char × Bool) × Head :=
  match _ : h.read with
  | (.error e, t) => (.error e, t)
  | (.ok none, t) => (.ok (acc.reverse, false), t)
  | (.ok (some c), t) =>
    if c = quoteMark then (.ok ((c :: acc).reverse, true), t.advance c)
    else quoted (c :: acc) (t.advance c)
termination_by h.size
decreasing_by exact size_advance_lt_of_read ‹_›

theorem run_accept {accept : Char → Bool} {acc : List Char} {h t : Head} {c : Char}
    (hr : h.read = (.ok (some c), t)) (hc : accept c = true) :
    h.run accept acc = (t.advance c).run accept (c :: acc) := by
  rw [run]
  split <;> simp_all

/-- What was just read is accepted the second time if it is accepted at all. -/
theorem rerun_of_read {accept : Char → Bool} {h t : Head} {c : Char}
    (hr : h.read = (.ok (some c), t)) (hc : accept c = true) :
    t.rerun accept = (t.advance c).run accept [c] := by
  obtain ⟨u, hu, hagain⟩ := exists_unread hr
  simp only [rerun, hu]
  exact run_accept hagain hc

theorem size_run_le (accept : Char → Bool) (acc : List Char) (h : Head) :
    (h.run accept acc).2.size ≤ h.size := by
  fun_induction run accept acc h with
  | case1 acc h e t hr => exact size_le_of_read hr
  | case2 acc h t hr => exact size_le_of_read hr
  | case3 acc h c t hr ha ih =>
    have hs := size_lt_of_read hr
    simp only [size_advance] at ih
    omega
  | case4 acc h c t hr ha u hu =>
    have hs := size_lt_of_read hr
    have := size_unread_le t
    simp only [hu] at this ⊢
    omega
  | case5 acc h c t hr ha e u hu =>
    have hs := size_lt_of_read hr
    have := size_unread_le t
    simp only [hu] at this ⊢
    omega

theorem size_quoted_le (acc : List Char) (h : Head) : (h.quoted acc).2.size ≤ h.size := by
  fun_induction quoted acc h with
  | case1 acc h e t hr => exact size_le_of_read hr
  | case2 acc h t hr => exact size_le_of_read hr
  | case3 acc h t hr => simpa using Nat.le_of_lt (size_lt_of_read hr)
  | case4 acc h c t hr hc ih =>
    have hs := size_lt_of_read hr
    simp only [size_advance] at ih
    omega

end Head
end LuScan
