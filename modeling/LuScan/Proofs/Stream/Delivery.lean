import LuScan.Proofs.Text.Utf8
import LuScan.Stream.Reader

/-!
What a stream delivers: bytes one after another, the characters that they encode, and what stops
them. A reader delivers the character that it holds back before those of its stream.
-/
namespace LuScan

namespace ByteStream

/-- Reading byte after byte gives `bs` and leaves the stream `t`. -/
inductive Feeds : ByteStream → List UInt8 → ByteStream → Prop
  | nil {s : ByteStream} : Feeds s [] s
  | cons {s t u : ByteStream} {b : UInt8} {bs : List UInt8} :
      s.next = (.ok (some b), u) → Feeds u bs t → Feeds s (b :: bs) t

/-- Reading character after character gives `cs` and leaves the stream `t`. -/
inductive Delivers : ByteStream → List Char → ByteStream → Prop
  | nil {s : ByteStream} : Delivers s [] s
  | cons {s t u : ByteStream} {c : Char} {cs : List Char} :
      s.char = (.ok (some c), u) → Delivers u cs t → Delivers s (c :: cs) t

/-- The next read gives no character but an end report, or the failure `e`. -/
def StopsAt (s : ByteStream) (e : Option ReadError) (t : ByteStream) : Prop :=
  s.char = (e.elim (.ok none) .error, t)

theorem feeds_bytes (xs ys : List UInt8) (rest : ByteStream) :
    Feeds (.bytes (xs ++ ys) :: rest) xs (.bytes ys :: rest) := by
  induction xs with
  | nil => exact .nil
  | cons x xs ih => exact .cons rfl ih

theorem Feeds.append {s t u : ByteStream} {xs ys : List UInt8} (hx : Feeds s xs t)
    (hy : Feeds t ys u) : Feeds s (xs ++ ys) u := by
  induction hx with
  | nil => exact hy
  | cons hs _ ih => exact .cons hs (ih hy)

theorem feeds_append_iff {s u : ByteStream} {xs ys : List UInt8} :
    Feeds s (xs ++ ys) u ↔ ∃ t, Feeds s xs t ∧ Feeds t ys u := by
  constructor
  · intro h
    induction xs generalizing s with
    | nil => exact ⟨s, .nil, h⟩
    | cons x xs ih =>
      cases h with
      | cons hs h =>
        obtain ⟨t, hx, hy⟩ := ih h
        exact ⟨t, .cons hs hx, hy⟩
  · rintro ⟨t, hx, hy⟩
    exact hx.append hy

theorem Feeds.take_eq {s t : ByteStream} {bs : List UInt8} (h : Feeds s bs t) :
    s.take bs.length = (.ok bs, t) := by
  induction h with
  | nil => rfl
  | cons hs _ ih => simp [take, hs, ih]

/-- The bytes of a character are read as that character. -/
theorem char_of_feeds {s t : ByteStream} {c : Char} (h : Feeds s (String.utf8EncodeChar c) t) :
    s.char = (.ok (some c), t) := by
  generalize hb : String.utf8EncodeChar c = bs at h
  cases h with
  | nil => exact absurd hb String.utf8EncodeChar_ne_nil
  | @cons s t u lead tail hs ht =>
    have hw := Utf8.width?_of_form (hb ▸ Utf8.form_utf8EncodeChar c)
    simp [char, hs, hw, ht.take_eq, Utf8.decode_of_utf8EncodeChar hb]

theorem delivers_of_feeds {s t : ByteStream} {cs : List Char}
    (h : Feeds s (cs.flatMap String.utf8EncodeChar) t) : Delivers s cs t := by
  induction cs generalizing s with
  | nil =>
    cases h
    exact .nil
  | cons c cs ih =>
    rw [List.flatMap_cons] at h
    obtain ⟨u, hc, hcs⟩ := feeds_append_iff.mp h
    exact .cons (char_of_feeds hc) (ih hcs)

theorem delivers_ofText (text : String) : Delivers (ofText text) text.toList [.bytes []] := by
  have h := feeds_bytes (Utf8.encode text) [] []
  rw [List.append_nil] at h
  exact delivers_of_feeds h

/-- A stream without anything left that a reader would notice. -/
def Silent (s : ByteStream) : Prop := ∀ d ∈ s, d = .bytes [] ∨ d = .interrupted

theorem silent_nil : Silent [] := by simp [Silent]

theorem Silent.next_eq {s : ByteStream} (h : s.Silent) : s.next = (.ok none, []) := by
  induction s with
  | nil => rfl
  | cons d s ih =>
    rw [Silent, List.forall_mem_cons] at h
    rcases h.1 with rfl | rfl
    · simpa [next] using ih h.2
    · simpa [next] using ih h.2

theorem stopsAt_of_next {s t : ByteStream} (h : s.next = (.ok none, t)) : s.StopsAt none t := by
  simp [StopsAt, char, h]

theorem Silent.stopsAt {s : ByteStream} (h : s.Silent) : s.StopsAt none [] :=
  stopsAt_of_next h.next_eq

end ByteStream

namespace Reader

/-- The reader's next characters are `cs`, and its stream is `t` after them. -/
def Delivers (r : Reader) (cs : List Char) (t : ByteStream) : Prop :=
  ∃ ds, cs = r.pending.toList ++ ds ∧ r.stream.Delivers ds t

theorem delivers_ofStream {s t : ByteStream} {cs : List Char} (h : s.Delivers cs t) :
    (ofStream s).Delivers cs t := ⟨cs, rfl, h⟩

/-- A reader that holds nothing back delivers what its stream does. -/
theorem delivers_of_nil {r : Reader} {s t : ByteStream} {cs : List Char} (hr : r.Delivers [] s)
    (hs : s.Delivers cs t) : r.Delivers cs t := by
  obtain ⟨ds, he, hd⟩ := hr
  obtain ⟨hp, rfl⟩ := List.append_eq_nil_iff.mp he.symm
  cases hd
  exact ⟨cs, by rw [hp, List.nil_append], hs⟩

theorem read_of_delivers {r : Reader} {c : Char} {cs : List Char} {t : ByteStream}
    (h : r.Delivers (c :: cs) t) :
    ∃ s : Reader, r.read = (.ok (some c), s) ∧ s.pending = none ∧ s.Delivers cs t := by
  obtain ⟨ds, he, hd⟩ := h
  unfold read
  cases hp : r.pending with
  | some d =>
    rw [hp, Option.toList_some, List.singleton_append, List.cons.injEq] at he
    obtain ⟨rfl, rfl⟩ := he
    exact ⟨_, rfl, rfl, cs, rfl, hd⟩
  | none =>
    rw [hp, Option.toList_none, List.nil_append] at he
    subst he
    cases hd with
    | cons hs hd => exact ⟨_, by simp only [hs]; rfl, rfl, cs, by simp, hd⟩

theorem read_of_stopsAt {r : Reader} {e : Option ReadError} {t u : ByteStream}
    (h : r.Delivers [] t) (ht : t.StopsAt e u) :
    ∃ s : Reader, r.read = (e.elim (.ok none) .error, s) ∧ s.Delivers [] u := by
  obtain ⟨ds, he, hd⟩ := h
  obtain ⟨hp, rfl⟩ := List.append_eq_nil_iff.mp he.symm
  cases hd
  rw [Option.toList_eq_nil_iff] at hp
  rw [ByteStream.StopsAt] at ht
  unfold read
  cases e with
  | none => exact ⟨_, by simp [hp, ht]; rfl, [], by simp, .nil⟩
  | some e => exact ⟨_, by simp [hp, ht]; rfl, [], by simp, .nil⟩

/-- A character that is pushed back comes first again. -/
theorem delivers_pending {r : Reader} {cs : List Char} {t : ByteStream} (c : Char)
    (h : r.Delivers cs t) (hp : r.pending = none) :
    Delivers { r with last := none, pending := some c } (c :: cs) t := by
  obtain ⟨ds, he, hd⟩ := h
  exact ⟨ds, by simp [he, hp], hd⟩

end Reader
end LuScan
