import LuScan.Proofs.Stream.Calls
import LuScan.Proofs.Stream.Text

/-!
Pushback of one character. Whether a character can be pushed back shows in the answers so far, and
what is pushed back is read again before the stream goes on; so nothing is lost, doubled or moved.
-/
namespace LuScan.Reader

/-- The answers that bear on pushback: something was read, be it the end, or was pushed back. -/
def Answer.counts : Answer → Bool
  | .read (.ok _) => true
  | .read (.error _) => false
  | .unread done => done

def lastCounting (answers : List Answer) : Option Answer := (answers.filter Answer.counts).getLast?

theorem lastCounting_cons (answer : Answer) (answers : List Answer) (a : Option Answer) :
    (lastCounting (answer :: answers)).or a =
      (lastCounting answers).or (if answer.counts then some answer else a) := by
  unfold lastCounting
  rw [List.filter_cons]
  split
  next =>
    rw [List.getLast?_cons]
    cases (answers.filter Answer.counts).getLast? <;> rfl
  next => rfl

/-- The results of reads, without those reads that gave what had been pushed back. `held` tells
whether something is pushed back at first. -/
def fresh (held : Bool) : List Answer → List (Except ReadError (Option Char))
  | [] => []
  | .unread done :: answers => fresh (held || done) answers
  | .read result :: answers => if held then fresh false answers else result :: fresh false answers

variable {r q : Reader} {answers : List Answer} {a : Option Answer} {c : Char}

/-- What a reader holds, by the last answer that counts. -/
inductive Recalls : Option Answer → Reader → Prop
  | nothing {s : ByteStream} : Recalls none ⟨s, none, none⟩
  | ended {s : ByteStream} : Recalls (some (.read (.ok none))) ⟨s, none, none⟩
  | character {s : ByteStream} {c : Char} : Recalls (some (.read (.ok (some c)))) ⟨s, some c, none⟩
  | pushed {s : ByteStream} {c : Char} : Recalls (some (.unread true)) ⟨s, none, some c⟩

/-- A read that fails keeps what the reader holds, in either slot. -/
theorem Recalls.call (h : Recalls a r) (x : Call) :
    Recalls (if (r.call x).1.counts then some (r.call x).1 else a) (r.call x).2 := by
  cases x with
  | unread =>
    cases h with
    | character => exact .pushed
    | nothing => exact .nothing
    | ended => exact .ended
    | pushed => exact .pushed
  | read =>
    cases hp : r.pending with
    | some d =>
      cases h with
      | pushed => exact .character
      | _ => cases hp
    | none =>
      rcases hchar : r.stream.char with ⟨e | _ | d, t⟩
      · simp only [Reader.call, read_of_char_error hp hchar, Answer.counts]
        cases h with
        | nothing => exact .nothing
        | ended => exact .ended
        | character => exact .character
        | pushed => cases hp
      · simp only [Reader.call, read_of_char_ok hp hchar, Answer.counts]
        exact .ended
      · simp only [Reader.call, read_of_char_ok hp hchar, Answer.counts]
        exact .character

theorem Recalls.run (h : Recalls a r) (calls : List Call) :
    Recalls ((lastCounting (r.run calls).1).or a) (r.run calls).2 := by
  induction calls generalizing r a with
  | nil => exact h
  | cons x calls ih =>
    show Recalls ((lastCounting ((r.call x).1 :: ((r.call x).2.run calls).1)).or a) _
    rw [lastCounting_cons]
    exact ih (h.call x)

theorem Recalls.unread_iff (h : Recalls a r) :
    r.unread.1 = true ↔ ∃ c, a = some (.read (.ok (some c))) := by
  cases h <;> simp [unread]

/-- With a character pushed back, nothing more can be. -/
theorem run_unread_of_pending (hp : r.pending = some c) (n : Nat) (calls : List Call) :
    r.run (.replicate n .unread ++ calls) =
      (.replicate n (.unread false) ++ (r.run calls).1, (r.run calls).2) := by
  have hcall : r.call .unread = (.unread false, r) := by
    simp [call, unread, hp]
  induction n with
  | zero => rfl
  | succ n ih =>
    rw [List.replicate_succ, List.cons_append, run, hcall]
    simp only [ih, List.replicate_succ, List.cons_append]

/-- A character that is pushed back, once for all attempts, is read again, and then the reader is
what it was. -/
theorem Recalls.run_unread_read (h : Recalls (some (.read (.ok (some c)))) r) (n : Nat) :
    r.run (.replicate (n + 1) .unread ++ [.read]) =
      (.unread true :: (.replicate n (.unread false) ++ [.read (.ok (some c))]), r) := by
  cases h with
  | @character s =>
    have hcall : Reader.call ⟨s, some c, none⟩ .unread = (.unread true, ⟨s, none, some c⟩) := rfl
    rw [List.replicate_succ, List.cons_append, Reader.run, hcall]
    simp only [run_unread_of_pending (r := ⟨s, none, some c⟩) rfl]
    rfl

theorem unread_held (r : Reader) : r.unread.2.stream = r.stream ∧
    r.unread.2.pending.isSome = (r.pending.isSome || r.unread.1) := by
  unfold unread
  split
  next hp _ => simp [hp]
  next => simp

theorem read_from_stream (hp : r.pending = none) : r.read.1 = r.stream.char.1 ∧
    r.read.2.stream = r.stream.char.2 ∧ r.read.2.pending = none := by
  rcases hchar : r.stream.char with ⟨e | c, t⟩
  · rw [read_of_char_error hp hchar]
    exact ⟨rfl, rfl, hp⟩
  · rw [read_of_char_ok hp hchar]
    exact ⟨rfl, rfl, rfl⟩

/-- Reads of `q` alone take from the stream what calls on `r` do. -/
theorem exists_reads_eq_fresh (hs : q.stream = r.stream) (hq : q.pending = none)
    (calls : List Call) : ∃ n, (q.reads n).1 = fresh r.pending.isSome (r.run calls).1 ∧
      (q.reads n).2.stream = (r.run calls).2.stream := by
  induction calls generalizing r q with
  | nil => exact ⟨0, rfl, hs⟩
  | cons x calls ih =>
    cases x with
    | unread =>
      obtain ⟨hstream, hheld⟩ := r.unread_held
      obtain ⟨n, hreads, hrest⟩ := ih (hs.trans hstream.symm) hq
      refine ⟨n, ?_, hrest⟩
      rw [hreads, hheld]
      rfl
    | read =>
      cases hp : r.pending with
      | some c =>
        -- Nothing is taken from the stream, so `q` waits.
        have hread : r.read = (.ok (some c), { r with last := some c, pending := none }) := by
          rw [read, hp]
        obtain ⟨n, hreads, hrest⟩ := ih (r := r.read.2) (by rw [hs, hread]) hq
        refine ⟨n, ?_, hrest⟩
        show (q.reads n).1 = fresh false (r.read.2.run calls).1
        rw [hreads, hread]
        rfl
      | none =>
        obtain ⟨hresult, hstream, hpending⟩ := read_from_stream hp
        obtain ⟨hresult', hstream', hpending'⟩ := read_from_stream hq
        rw [hs] at hresult' hstream'
        obtain ⟨n, hreads, hrest⟩ := ih (hstream'.trans hstream.symm) hpending'
        refine ⟨n + 1, ?_, hrest⟩
        show q.read.1 :: (q.read.2.reads n).1 = r.read.1 :: fresh false (r.read.2.run calls).1
        rw [hreads, hresult', hresult, hpending]
        rfl

/-- After any calls on a reader of any stream, a character can be pushed back just in case the last
answer that counts is a character that was read. However often that is tried, the next read gives
this character, takes nothing from the stream, and leaves the reader as it was. Without the
pushbacks and the reads that gave what was pushed back, the answers are those of reads alone, of as
much of the stream. -/
theorem run_pushback {stream : ByteStream} {calls : List Call} {answers : List Answer} {r : Reader}
    (h : (ofStream stream).run calls = (answers, r)) :
    (r.unread.1 = true ↔ ∃ c, lastCounting answers = some (.read (.ok (some c)))) ∧
    (∀ c, lastCounting answers = some (.read (.ok (some c))) → ∀ n,
      r.run (.replicate (n + 1) .unread ++ [.read]) =
        (.unread true :: (.replicate n (.unread false) ++ [.read (.ok (some c))]), r)) ∧
    ∃ n, ((ofStream stream).reads n).1 = fresh false answers ∧
      ((ofStream stream).reads n).2.stream = r.stream := by
  have hrecalls := Recalls.run (r := ofStream stream) .nothing calls
  have hfresh := exists_reads_eq_fresh (q := ofStream stream) (r := ofStream stream) rfl rfl calls
  rw [h, Option.or_none] at hrecalls
  rw [h] at hfresh
  refine ⟨hrecalls.unread_iff, fun c hc n => ?_, hfresh⟩
  rw [hc] at hrecalls
  exact hrecalls.run_unread_read n

/-- A failure inside a character keeps the one before it, which is pushed back and read again. -/
theorem run_pushback_past_failure : ∃ (answers : List Answer) (r : Reader),
    (ofStream [.bytes [0x61, 0xE2], .failed ⟨.timedOut, "late"⟩, .bytes [0x62]]).run
      [.read, .read, .unread, .unread, .read, .read] = (answers, r) ∧
    answers = [.read (.ok (some 'a')), .read (.error (.failed ⟨.timedOut, "late"⟩)), .unread true,
      .unread false, .read (.ok (some 'a')), .read (.ok (some 'b'))] ∧
    r.unread.1 = true ∧
    (∀ n, r.run (.replicate (n + 1) .unread ++ [.read]) =
      (.unread true :: (.replicate n (.unread false) ++ [.read (.ok (some 'b'))]), r)) ∧
    ∃ n, ((ofStream [.bytes [0x61, 0xE2], .failed ⟨.timedOut, "late"⟩, .bytes [0x62]]).reads n).1 =
      [.ok (some 'a'), .error (.failed ⟨.timedOut, "late"⟩), .ok (some 'b')] := by
  have hrun := (Prod.eta ((ofStream [.bytes [0x61, 0xE2], .failed ⟨.timedOut, "late"⟩,
    .bytes [0x62]]).run [.read, .read, .unread, .unread, .read, .read])).symm
  obtain ⟨hunread, hagain, n, hreads, -⟩ := run_pushback hrun
  exact ⟨_, _, hrun, rfl, hunread.mpr ⟨'b', rfl⟩, hagain 'b' rfl, n, hreads⟩

end LuScan.Reader
