import LuScan.Proofs.Stream.Calls

/-!
Streams up to how their bytes are delivered. Streams of one normal form cannot be told apart by what
is read of them.
-/
namespace LuScan

/-- A delivery byte by byte; an interruption is none. -/
def Delivery.normal : Delivery → List Delivery
  | .bytes chunk => chunk.map fun b => .bytes [b]
  | .interrupted => []
  | .endReport => [.endReport]
  | .failed fault => [.failed fault]

theorem Delivery.flatMap_normal (d : Delivery) : d.normal.flatMap Delivery.normal = d.normal := by
  cases d with
  | bytes chunk =>
    show (chunk.map fun b => bytes [b]).flatMap Delivery.normal = chunk.map fun b => bytes [b]
    rw [List.flatMap_map, List.map_eq_flatMap]
    rfl
  | _ => rfl

namespace ByteStream

variable {s t u : ByteStream}

/-- The single bytes, end reports and failures of a stream. -/
def normal (s : ByteStream) : ByteStream := s.flatMap Delivery.normal

@[simp] theorem normal_nil : normal [] = [] := rfl

@[simp] theorem normal_cons (d : Delivery) (s : ByteStream) :
    normal (d :: s) = d.normal ++ normal s := rfl

@[simp] theorem normal_append (s t : ByteStream) : normal (s ++ t) = normal s ++ normal t :=
  List.flatMap_append

@[simp] theorem normal_normal (s : ByteStream) : s.normal.normal = s.normal := by
  unfold normal
  rw [List.flatMap_assoc]
  simp only [Delivery.flatMap_normal]

/-- The next byte of a stream is that of its normal form. -/
theorem next_normal (s : ByteStream) :
    s.normal.next.1 = s.next.1 ∧ s.normal.next.2.normal = s.next.2.normal := by
  fun_induction next s with
  | case1 => exact ⟨rfl, rfl⟩
  | case2 rest ih => exact ih
  | case3 b chunk rest =>
    constructor
    · rfl
    · show normal (Delivery.normal (.bytes chunk) ++ normal rest) = _
      rw [normal_append, normal_normal]
      exact congrArg (· ++ normal rest) (Delivery.flatMap_normal (.bytes chunk))
  | case4 rest => exact ⟨rfl, normal_normal rest⟩
  | case5 rest ih => exact ih
  | case6 fault rest => exact ⟨rfl, normal_normal rest⟩

theorem exists_next (h : s.normal = t.normal) {r : Except Fault (Option UInt8)}
    (hs : s.next = (r, u)) : ∃ v, t.next = (r, v) ∧ u.normal = v.normal := by
  obtain ⟨hresult, hrest⟩ := next_normal s
  obtain ⟨hresult', hrest'⟩ := next_normal t
  rw [hs, h] at hresult hrest
  have hr : t.next.1 = r := hresult'.symm.trans hresult
  exact ⟨t.next.2, by rw [← hr], hrest.symm.trans hrest'⟩

theorem exists_take (h : s.normal = t.normal) {n : Nat} {r : Except ReadError (List UInt8)}
    (hs : s.take n = (r, u)) : ∃ v, t.take n = (r, v) ∧ u.normal = v.normal := by
  induction n generalizing s t r u with
  | zero =>
    cases hs
    exact ⟨t, rfl, h⟩
  | succ n ih =>
    rcases hnext : s.next with ⟨result, s'⟩
    obtain ⟨t', hnext', h'⟩ := exists_next h hnext
    unfold take at hs ⊢
    rw [hnext] at hs
    rw [hnext']
    rcases result with fault | _ | b
    · cases hs
      exact ⟨t', rfl, h'⟩
    · cases hs
      exact ⟨t', rfl, h'⟩
    · rcases htake : s'.take n with ⟨bs, w⟩
      obtain ⟨v, htake', hv⟩ := ih h' htake
      dsimp only at hs ⊢
      rw [htake] at hs
      rw [htake']
      cases bs with
      | error e | ok bs =>
        cases hs
        exact ⟨v, rfl, hv⟩

theorem exists_char (h : s.normal = t.normal) {r : Except ReadError (Option Char)}
    (hs : s.char = (r, u)) : ∃ v, t.char = (r, v) ∧ u.normal = v.normal := by
  rcases hnext : s.next with ⟨result, s'⟩
  obtain ⟨t', hnext', h'⟩ := exists_next h hnext
  unfold char at hs ⊢
  rw [hnext] at hs
  rw [hnext']
  rcases result with fault | _ | lead
  · cases hs
    exact ⟨t', rfl, h'⟩
  · cases hs
    exact ⟨t', rfl, h'⟩
  · cases hwidth : Utf8.width? lead with
    | none =>
      simp only [hwidth] at hs ⊢
      cases hs
      exact ⟨t', rfl, h'⟩
    | some width =>
      rcases htake : s'.take (width - 1) with ⟨tail, w⟩
      obtain ⟨v, htake', hv⟩ := exists_take h' htake
      simp only [hwidth, htake, htake'] at hs ⊢
      cases tail with
      | error e =>
        cases hs
        exact ⟨v, rfl, hv⟩
      | ok tail =>
        cases hdecode : Utf8.decode lead tail with
        | error good | ok c =>
          simp only [hdecode] at hs ⊢
          cases hs
          exact ⟨v, rfl, hv⟩

end ByteStream

namespace Reader

variable {r q s : Reader}

/-- The readers hold the same characters, and their streams have one normal form. -/
structure Similar (r q : Reader) : Prop where
  normal_eq : r.stream.normal = q.stream.normal
  last_eq : r.last = q.last
  pending_eq : r.pending = q.pending

theorem Similar.exists_read (h : r.Similar q) {result : Except ReadError (Option Char)}
    (hr : r.read = (result, s)) : ∃ p, q.read = (result, p) ∧ s.Similar p := by
  obtain ⟨hstream, hlast, hpending⟩ := h
  unfold read at hr ⊢
  rw [← hpending]
  cases hp : r.pending with
  | some c =>
    simp only [hp] at hr ⊢
    cases hr
    exact ⟨_, rfl, hstream, rfl, rfl⟩
  | none =>
    rcases hchar : r.stream.char with ⟨read, u⟩
    obtain ⟨v, hchar', hv⟩ := ByteStream.exists_char hstream hchar
    simp only [hp, hchar, hchar'] at hr ⊢
    cases read with
    | error e =>
      cases hr
      exact ⟨_, rfl, hv, hlast, rfl⟩
    | ok c =>
      cases hr
      exact ⟨_, rfl, hv, rfl, rfl⟩

theorem Similar.exists_unread (h : r.Similar q) {done : Bool} (hr : r.unread = (done, s)) :
    ∃ p, q.unread = (done, p) ∧ s.Similar p := by
  obtain ⟨hstream, hlast, hpending⟩ := h
  unfold unread at hr ⊢
  rw [← hlast, ← hpending]
  split at hr
  · cases hr
    exact ⟨_, rfl, hstream, rfl, rfl⟩
  · cases hr
    exact ⟨_, rfl, hstream, hlast, hpending⟩

theorem Similar.exists_call (h : r.Similar q) {c : Call} {answer : Answer}
    (hr : r.call c = (answer, s)) : ∃ p, q.call c = (answer, p) ∧ s.Similar p := by
  cases c with
  | read =>
    obtain ⟨p, hread, hp⟩ := h.exists_read (Prod.eta r.read).symm
    cases hr
    exact ⟨p, by rw [call, hread], hp⟩
  | unread =>
    obtain ⟨p, hunread, hp⟩ := h.exists_unread (Prod.eta r.unread).symm
    cases hr
    exact ⟨p, by rw [call, hunread], hp⟩

/-- Similar readers give the same answers to any calls, and stay similar. -/
theorem Similar.run (h : r.Similar q) (calls : List Call) :
    (r.run calls).1 = (q.run calls).1 ∧ (r.run calls).2.Similar (q.run calls).2 := by
  induction calls generalizing r q with
  | nil => exact ⟨rfl, h⟩
  | cons c calls ih =>
    rcases hcall : r.call c with ⟨answer, s⟩
    obtain ⟨p, hcall', hp⟩ := h.exists_call hcall
    obtain ⟨hanswers, hrest⟩ := ih hp
    unfold Reader.run
    rw [hcall, hcall']
    exact ⟨congrArg (answer :: ·) hanswers, hrest⟩

end Reader
end LuScan
