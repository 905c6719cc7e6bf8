import LuScan.Proofs.Stream.Delivery
import LuScan.Proofs.Text.Canonical

/-!
Bytes read as a text. A character is read exactly where its encoding stands, so reads go through the
longest encoded text that the bytes begin with, and fail where it ends unless nothing is left.
-/
namespace LuScan

namespace ByteStream

variable {s t u rest after : ByteStream} {xs bytes left : List UInt8} {cs ds : List Char} {c : Char}

/-- No byte comes next. -/
def Dry (s : ByteStream) : Prop := ∀ b t, s.next ≠ (.ok (some b), t)

theorem dry_of_end (h : s.next = (.ok none, t)) : s.Dry := by
  intro b u hb
  cases h.symm.trans hb

/-- The bytes up to where a stream stops begin with all others that it feeds. -/
theorem Feeds.exists_left (hx : Feeds s xs t) (hs : Feeds s bytes rest) (hr : rest.Dry) :
    ∃ left, bytes = xs ++ left ∧ Feeds t left rest := by
  induction hx generalizing bytes with
  | nil => exact ⟨bytes, rfl, hs⟩
  | @cons s t u b xs hnext _ ih =>
    cases hs with
    | nil => exact absurd hnext (hr b u)
    | cons hnext' hs =>
      cases hnext.symm.trans hnext'
      obtain ⟨left, rfl, hleft⟩ := ih hs
      exact ⟨left, rfl, hleft⟩

theorem feeds_of_take {n : Nat} (h : s.take n = (.ok bytes, t)) :
    Feeds s bytes t ∧ bytes.length = n := by
  induction n generalizing s bytes with
  | zero =>
    cases h
    exact ⟨.nil, rfl⟩
  | succ n ih =>
    rw [take] at h
    split at h
    · cases h
    · cases h
    next b u hnext =>
      split at h
      next bs v htake =>
        cases h
        obtain ⟨hfeed, rfl⟩ := ih htake
        exact ⟨.cons hnext hfeed, rfl⟩
      next => cases h

/-- Too few bytes before the end report. -/
theorem Feeds.take_of_lt (h : Feeds s bytes t) (ht : t.next = (.ok none, u)) {n : Nat}
    (hn : bytes.length < n) : s.take n = (.error .truncated, u) := by
  induction h generalizing n with
  | nil =>
    obtain ⟨n, rfl⟩ := Nat.exists_eq_succ_of_ne_zero (Nat.ne_of_gt hn)
    simp [take, ht]
  | cons hnext _ ih =>
    obtain ⟨n, rfl⟩ := Nat.exists_eq_succ_of_ne_zero (Nat.ne_zero_of_lt hn)
    simp [take, hnext, ih ht (Nat.lt_of_succ_lt_succ hn)]

theorem feeds_of_char (h : s.char = (.ok (some c), t)) :
    Feeds s (String.utf8EncodeChar c) t := by
  rw [char] at h
  split at h
  · cases h
  · cases h
  next lead u hnext =>
    split at h
    · cases h
    next width hwidth =>
      split at h
      · cases h
      next tail v htake =>
        split at h
        next d hd =>
          cases h
          obtain ⟨hfeed, hlen⟩ := feeds_of_take htake
          have hw : Utf8.width? lead = some (tail.length + 1) := by
            have hpos : 0 < width := by
              rcases Utf8.lead_of_width? hwidth with h | h | h | h <;> omega
            rw [hwidth, hlen, Nat.sub_add_cancel hpos]
          rw [Utf8.utf8EncodeChar_of_decode hw hd]
          exact .cons hnext hfeed
        next => cases h

theorem Delivers.feeds (h : Delivers s cs t) : Feeds s (cs.flatMap String.utf8EncodeChar) t := by
  induction h with
  | nil => exact .nil
  | cons hs _ ih =>
    rw [List.flatMap_cons]
    exact (feeds_of_char hs).append ih

theorem Delivers.append (h : Delivers s cs t) (h' : Delivers t ds u) : Delivers s (cs ++ ds) u := by
  induction h with
  | nil => exact h'
  | cons hs _ ih => exact .cons hs (ih h')

theorem delivers_append_iff : Delivers s (cs ++ ds) u ↔ ∃ t, Delivers s cs t ∧ Delivers t ds u := by
  constructor
  · intro h
    induction cs generalizing s with
    | nil => exact ⟨s, .nil, h⟩
    | cons c cs ih =>
      cases h with
      | cons hs h =>
        obtain ⟨t, hc, hd⟩ := ih h
        exact ⟨t, .cons hs hc, hd⟩
  · rintro ⟨t, hc, hd⟩
    exact hc.append hd

/-- The next read gives no character. -/
def Blocked (s : ByteStream) : Prop := ∀ c t, s.char ≠ (.ok (some c), t)

/-- Where no more can be read, everything that can be was. -/
theorem Delivers.isPrefix (h : Delivers s cs t) (ht : t.Blocked) (h' : Delivers s ds u) :
    ds <+: cs := by
  induction h' generalizing cs with
  | nil => exact List.nil_prefix
  | @cons s u v d ds hs _ ih =>
    cases h with
    | nil => exact absurd hs (ht d v)
    | cons hs' h =>
      cases hs.symm.trans hs'
      exact List.cons_prefix_cons.mpr ⟨rfl, ih h⟩

/-- Reads go on until no character comes next. -/
theorem exists_delivers (hs : Feeds s bytes rest) (hr : rest.Dry) :
    ∃ cs t left, bytes = cs.flatMap String.utf8EncodeChar ++ left ∧ Delivers s cs t ∧
      Feeds t left rest ∧ t.Blocked := by
  generalize hn : bytes.length = n
  induction n using Nat.strongRecOn generalizing s bytes with
  | ind n ih =>
    by_cases hc : s.Blocked
    · exact ⟨[], s, bytes, rfl, .nil, hs, hc⟩
    · obtain ⟨c, u, hc⟩ : ∃ c u, s.char = (.ok (some c), u) := by simpa [Blocked] using hc
      obtain ⟨more, rfl, hmore⟩ := (feeds_of_char hc).exists_left hs hr
      have hpos : 0 < (String.utf8EncodeChar c).length :=
        List.length_pos_iff.mpr String.utf8EncodeChar_ne_nil
      rw [List.length_append] at hn
      obtain ⟨cs, t, left, rfl, hcs, hleft, ht⟩ := ih more.length (by omega) hmore rfl
      exact ⟨c :: cs, t, left, by simp, .cons hc hcs, hleft, ht⟩

/-- A read that fails where the bytes `left` come next and then an end report, after which the
stream is `after`: its error and the stream that it leaves. -/
inductive Fails (s after : ByteStream) : List UInt8 → ReadError → ByteStream → Prop
  | invalidLead {lead : UInt8} {more : List UInt8} {t : ByteStream} :
      0x80 ≤ lead ∧ lead ≤ 0xC1 ∨ 0xF5 ≤ lead → Feeds s [lead] t →
      Fails s after (lead :: more) .invalidLead t
  | truncated {lead : UInt8} {more : List UInt8} {width : Nat} : Utf8.width? lead = some width →
      (lead :: more).length < width → Fails s after (lead :: more) .truncated after
  | illFormed {lead : UInt8} {more : List UInt8} {width good : Nat} {t : ByteStream} :
      Utf8.width? lead = some width → width ≤ (lead :: more).length →
      Feeds s ((lead :: more).take width) t → Fails s after (lead :: more) (.illFormed good) t

theorem exists_fails (hs : Feeds s left rest) (hend : rest.next = (.ok none, after))
    (hb : s.Blocked) (hleft : left ≠ []) :
    ∃ e t, s.char = (.error e, t) ∧ Fails s after left e t := by
  cases hs with
  | nil => exact absurd rfl hleft
  | @cons _ _ u lead more hnext hmore =>
    cases hwidth : Utf8.width? lead with
    | none =>
      refine ⟨.invalidLead, u, by simp [char, hnext, hwidth], .invalidLead ?_ (.cons hnext .nil)⟩
      exact Utf8.width?_eq_none_iff.mp hwidth
    | some width =>
      by_cases hlen : more.length < width - 1
      · refine ⟨.truncated, after, ?_, .truncated hwidth ?_⟩
        · simp [char, hnext, hwidth, hmore.take_of_lt hend hlen]
        · rw [List.length_cons]
          omega
      · have hpos : 0 < width := by
          rcases Utf8.lead_of_width? hwidth with h | h | h | h <;> omega
        have hsplit : more = more.take (width - 1) ++ more.drop (width - 1) := by simp
        rw [hsplit] at hmore
        obtain ⟨v, htail, -⟩ := feeds_append_iff.mp hmore
        have htake := htail.take_eq
        rw [List.length_take, Nat.min_eq_left (Nat.le_of_not_lt hlen)] at htake
        cases hd : Utf8.decode lead (more.take (width - 1)) with
        | ok c => exact absurd (by simp [char, hnext, hwidth, htake, hd]) (hb c v)
        | error good =>
          refine ⟨.illFormed good, v, by simp [char, hnext, hwidth, htake, hd],
            .illFormed hwidth ?_ ?_⟩
          · rw [List.length_cons]
            omega
          · rw [← Nat.sub_add_cancel hpos, List.take_succ_cons]
            exact .cons hnext htail

theorem Fails.kind_eq {e : ReadError} (h : Fails s after left e t) : e.kind = .invalidData := by
  cases h <;> rfl

end ByteStream

namespace Reader

variable {r : Reader} {t : ByteStream} {cs : List Char}

/-- The results of the next `n` reads, and the reader after them. -/
def reads : Nat → Reader → List (Except ReadError (Option Char)) × Reader
  | 0, r => ([], r)
  | n + 1, r =>
    let more := reads n r.read.2
    (r.read.1 :: more.1, more.2)

theorem reads_succ (n : Nat) (r : Reader) :
    r.reads (n + 1) = ((r.reads n).1 ++ [(r.reads n).2.read.1], (r.reads n).2.read.2) := by
  induction n generalizing r with
  | zero => rfl
  | succ n ih =>
    rw [reads, ih, reads]
    rfl

theorem read_of_char_ok {c : Option Char} (hp : r.pending = none)
    (hc : r.stream.char = (.ok c, t)) : r.read = (.ok c, ⟨t, c, none⟩) := by
  simp [read, hp, hc]

theorem read_of_char_error {e : ReadError} (hp : r.pending = none)
    (hc : r.stream.char = (.error e, t)) : r.read = (.error e, { r with stream := t }) := by
  simp [read, hp, hc]

theorem reads_of_delivers (hp : r.pending = none) (hd : r.stream.Delivers cs t) :
    ∃ m : Reader, r.reads cs.length = (cs.map fun c => .ok (some c), m) ∧ m.pending = none ∧
      m.stream = t := by
  generalize hs : r.stream = s at hd
  induction hd generalizing r with
  | nil => exact ⟨r, rfl, hp, hs⟩
  | @cons s t u c cs hchar _ ih =>
    rw [← hs] at hchar
    have hread := read_of_char_ok hp hchar
    obtain ⟨m, hm, hpending, hstream⟩ := ih (r := ⟨u, some c, none⟩) rfl rfl
    refine ⟨m, ?_, hpending, hstream⟩
    rw [List.length_cons, reads, hread, hm]
    rfl

end Reader

theorem Utf8.encode_append (s t : String) : encode (s ++ t) = encode s ++ encode t := by
  simp [encode]

theorem Utf8.encode_eq_nil {s : String} (h : encode s = []) : s = "" := by
  cases hs : s.toList with
  | nil => exact String.toList_eq_nil_iff.mp hs
  | cons c cs => simp [encode, hs, String.utf8EncodeChar_ne_nil] at h

/-- Reads of some bytes that an end report follows give the longest text whose encoding the bytes
begin with, each character from its own encoding. The read after them gives the end if no bytes are
left, and else it fails and takes what of them cannot be a character. -/
theorem reads_longest_text {stream rest after : ByteStream} {bytes : List UInt8}
    (hfeed : stream.Feeds bytes rest) (hend : rest.next = (.ok none, after)) :
    ∃ (text : String) (left : List UInt8), bytes = Utf8.encode text ++ left ∧
      (∀ (other : String) (more : List UInt8), bytes = Utf8.encode other ++ more →
        other.toList <+: text.toList) ∧
      (∀ whole : String, bytes = Utf8.encode whole → text = whole ∧ left = []) ∧
      (∀ xs ys : List Char, text.toList = xs ++ ys → ∃ r : Reader,
        (Reader.ofStream stream).reads xs.length = (xs.map fun c => .ok (some c), r) ∧
        stream.Feeds (Utf8.encode (String.ofList xs)) r.stream) ∧
      ∃ (last : Except ReadError (Option Char)) (r : Reader),
        (Reader.ofStream stream).reads (text.length + 1) =
          ((text.toList.map fun c => .ok (some c)) ++ [last], r) ∧
        (left = [] ∧ last = .ok none ∧ r.stream = after ∨
          left ≠ [] ∧ ∃ e m, last = .error e ∧ e.kind = .invalidData ∧
            stream.Feeds (Utf8.encode text) m ∧ m.Fails after left e r.stream) ∧
        ReadError.invalidLead.message = "invalid UTF-8 lead byte" ∧
        ReadError.truncated.message = "truncated UTF-8 sequence" := by
  obtain ⟨cs, t, left, hbytes, hcs, hleft, ht⟩ :=
    ByteStream.exists_delivers hfeed (ByteStream.dry_of_end hend)
  have hlongest (other : String) (more : List UInt8) (h : bytes = Utf8.encode other ++ more) :
      other.toList <+: cs := by
    rw [h] at hfeed
    obtain ⟨u, hother, -⟩ := ByteStream.feeds_append_iff.mp hfeed
    exact hcs.isPrefix ht (ByteStream.delivers_of_feeds hother)
  obtain ⟨m, hreads, hpending, rfl⟩ := Reader.reads_of_delivers (r := .ofStream stream) rfl hcs
  refine ⟨String.ofList cs, left, by simpa [Utf8.encode] using hbytes, by simpa using hlongest,
    ?_, ?_, ?_⟩
  · intro whole hwhole
    obtain ⟨zs, hzs⟩ := hlongest whole [] (by simpa using hwhole)
    have htext : String.ofList cs = whole ++ String.ofList zs := by simp [← hzs]
    have hnil : Utf8.encode (String.ofList zs) ++ left = [] := by
      apply (List.append_cancel_left_eq (Utf8.encode whole) _ _).mp
      rw [List.append_nil, ← List.append_assoc, ← Utf8.encode_append, ← htext, ← hwhole, hbytes]
      simp [Utf8.encode]
    obtain ⟨hencode, hempty⟩ := List.append_eq_nil_iff.mp hnil
    rw [htext, Utf8.encode_eq_nil hencode]
    exact ⟨String.append_empty, hempty⟩
  · intro xs ys hsplit
    rw [String.toList_ofList] at hsplit
    rw [hsplit] at hcs
    obtain ⟨u, hxs, -⟩ := ByteStream.delivers_append_iff.mp hcs
    obtain ⟨r, hr, -, rfl⟩ := Reader.reads_of_delivers (r := .ofStream stream) rfl hxs
    exact ⟨r, hr, by simpa [Utf8.encode] using hxs.feeds⟩
  · rw [String.length_ofList, String.toList_ofList, Reader.reads_succ, hreads]
    refine ⟨m.read.1, m.read.2, rfl, ?_, rfl, rfl⟩
    by_cases hempty : left = []
    · subst hempty
      cases hleft
      have hchar : m.stream.char = (.ok none, after) := by simp [ByteStream.char, hend]
      rw [Reader.read_of_char_ok hpending hchar]
      exact .inl ⟨rfl, rfl, rfl⟩
    · obtain ⟨e, u, hchar, hfails⟩ := ByteStream.exists_fails hleft hend ht hempty
      rw [Reader.read_of_char_error hpending hchar]
      exact .inr ⟨hempty, e, m.stream, rfl, hfails.kind_eq,
        by simpa [Utf8.encode] using hcs.feeds, hfails⟩

/-- A surrogate written like a character is refused with all three of its bytes. -/
theorem reads_longest_text_of_surrogate :
    ByteStream.Feeds [.bytes [0x61, 0xED], .interrupted, .bytes [0xA0, 0x80, 0x62]]
      [0x61, 0xED, 0xA0, 0x80, 0x62] [.bytes []] ∧
    ByteStream.next [.bytes []] = (.ok none, []) ∧
    (Reader.ofStream [.bytes [0x61, 0xED], .interrupted, .bytes [0xA0, 0x80, 0x62]]).reads 2 =
      ([.ok (some 'a'), .error (.illFormed 1)], ⟨[.bytes [0x62]], some 'a', none⟩) ∧
    ∃ m, ByteStream.Feeds [.bytes [0x61, 0xED], .interrupted, .bytes [0xA0, 0x80, 0x62]]
        (Utf8.encode "a") m ∧
      m.Fails [] [0xED, 0xA0, 0x80, 0x62] (.illFormed 1) [.bytes [0x62]] := by
  have hfeed : ByteStream.Feeds [.bytes [0x61, 0xED], .interrupted, .bytes [0xA0, 0x80, 0x62]]
      [0x61, 0xED, 0xA0, 0x80, 0x62] [.bytes []] :=
    .cons rfl (.cons rfl (.cons rfl (.cons rfl (.cons rfl .nil))))
  have htwo : (Reader.ofStream [.bytes [0x61, 0xED], .interrupted,
      .bytes [0xA0, 0x80, 0x62]]).reads 2 =
        ([.ok (some 'a'), .error (.illFormed 1)], ⟨[.bytes [0x62]], some 'a', none⟩) := rfl
  have hfirst : [0x61, 0xED, 0xA0, 0x80, 0x62] = Utf8.encode "a" ++ [0xED, 0xA0, 0x80, 0x62] := by
    decide
  obtain ⟨text, left, hbytes, hlongest, -, hreads, last, r, hlast, hstop, -⟩ :=
    reads_longest_text hfeed rfl
  obtain ⟨zs, hzs⟩ := hlongest "a" _ hfirst
  have hzs : text.toList = 'a' :: zs := hzs.symm
  cases zs with
  | cons z zs =>
    obtain ⟨r, hr, -⟩ := hreads ['a', z] zs hzs
    cases hr.symm.trans htwo
  | nil =>
    obtain rfl : text = "a" := String.toList_injective hzs
    obtain rfl := List.append_cancel_left (hfirst.symm.trans hbytes)
    cases hlast.symm.trans htwo
    rcases hstop with ⟨-, hend, -⟩ | ⟨-, e, m, he, -, hm, hfails⟩
    · cases hend
    · cases he
      exact ⟨hfeed, rfl, htwo, m, hm, hfails⟩

end LuScan
