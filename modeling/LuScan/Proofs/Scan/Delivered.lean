import LuScan.Proofs.Grammar.Segmentation
import LuScan.Proofs.Stream.Delivery
import LuScan.Scan.Scanner

/-!
Scans of what a stream delivers. A scan over a segment gives its token and stops right after it; at
the end of the delivered characters it also sees the end report or the failure that comes there.
-/
namespace LuScan

/-- What a scan gives at `p` when the stream stops: its result, or the failure. -/
def stopped {α : Type} (e : Option ReadError) (p : Position) (a : α) : Except ScanError α :=
  e.elim (.ok a) fun e => .error ⟨.stream e, p⟩

@[simp] theorem stopped_none {α : Type} (p : Position) (a : α) : stopped none p a = .ok a := rfl

theorem map_stopped {α β : Type} (f : α → β) (e : Option ReadError) (p : Position) (a : α) :
    (stopped e p a).map f = stopped e p (f a) := by
  cases e <;> rfl

namespace Head

variable {l : Lexicon} {source : String} {h : Head} {cs rest xs : List Char} {c : Char}
  {t u : ByteStream} {e : Option ReadError} {accept : Char → Bool}

/-- The next characters are `cs`, and the stream is `t` after them. -/
def Delivers (h : Head) (cs : List Char) (t : ByteStream) : Prop := h.reader.Delivers cs t

theorem read_of_delivers (hd : h.Delivers (c :: cs) t) :
    ∃ k : Head, h.read = (.ok (some c), k) ∧ k.Delivers cs t ∧ k.pos = h.pos ∧
      ∃ m : Head, k.unread = (.ok (), m) ∧ m.Delivers (c :: cs) t ∧ m.pos = h.pos := by
  obtain ⟨r, hr, hp, hd⟩ := Reader.read_of_delivers hd
  have hread : h.read = (.ok (some c), { h with reader := r }) := by simp [read, hr]
  exact ⟨_, hread, hd, rfl, _, unread_of_read hread, Reader.delivers_pending c hd hp, rfl⟩

theorem read_of_stopsAt (hd : h.Delivers [] t) (ht : t.StopsAt e u) :
    ∃ k : Head, h.read = (stopped e h.pos none, k) ∧ k.Delivers [] u ∧ k.pos = h.pos := by
  obtain ⟨r, hr, hd⟩ := Reader.read_of_stopsAt hd ht
  refine ⟨{ h with reader := r }, ?_, hd, rfl⟩
  cases e with
  | none => simp [read, hr]
  | some e => simp [read, hr, stopped]

theorem run_refuse {k m : Head} {acc : List Char} (hr : h.read = (.ok (some c), k))
    (hc : accept c = false) (hu : k.unread = (.ok (), m)) :
    h.run accept acc = (.ok acc.reverse, m) := by
  rw [run]
  split <;> simp_all

theorem run_stop {k : Head} {acc : List Char} (hr : h.read = (stopped e h.pos none, k)) :
    h.run accept acc = (stopped e h.pos acc.reverse, k) := by
  rw [run]
  cases e <;> split <;> simp_all [stopped]

theorem run_error {k : Head} {acc : List Char} {error : ScanError}
    (hr : h.read = (.error error, k)) : h.run accept acc = (.error error, k) := by
  rw [run]
  split <;> simp_all

/-- A run passes what it accepts. -/
theorem run_of_forall (hx : ∀ x ∈ xs, accept x = true) (hd : h.Delivers (xs ++ cs) t)
    (acc : List Char) :
    ∃ m : Head, h.run accept acc = m.run accept (xs.reverse ++ acc) ∧ m.Delivers cs t ∧
      m.pos = h.pos.after xs := by
  induction xs generalizing h acc with
  | nil => exact ⟨h, rfl, hd, rfl⟩
  | cons x xs ih =>
    rw [List.forall_mem_cons] at hx
    obtain ⟨k, hr, hk, hp, -⟩ := read_of_delivers hd
    obtain ⟨m, hrun, hm, hpos⟩ := ih hx.2 (h := k.advance x) hk (x :: acc)
    refine ⟨m, ?_, hm, by simp [hpos, hp]⟩
    rw [run_accept hr hx.1, hrun]
    simp

/-- A run that ends at a character leaves it for the next scan. -/
theorem run_of_delivers (hx : ∀ x ∈ xs, accept x = true) (hc : accept c = false)
    (hd : h.Delivers (xs ++ c :: rest) t) (acc : List Char) :
    ∃ m : Head, h.run accept acc = (.ok (acc.reverse ++ xs), m) ∧ m.Delivers (c :: rest) t ∧
      m.pos = h.pos.after xs := by
  obtain ⟨n, hrun, hn, hpos⟩ := run_of_forall hx hd acc
  obtain ⟨k, hr, -, -, m, hu, hm, hp⟩ := read_of_delivers hn
  refine ⟨m, ?_, hm, hp.trans hpos⟩
  rw [hrun, run_refuse hr hc hu]
  simp

theorem run_of_stopsAt (hx : ∀ x ∈ xs, accept x = true) (hd : h.Delivers xs t)
    (ht : t.StopsAt e u) (acc : List Char) :
    ∃ m : Head, h.run accept acc = (stopped e (h.pos.after xs) (acc.reverse ++ xs), m) ∧
      m.Delivers [] u ∧ m.pos = h.pos.after xs := by
  rw [← List.append_nil xs] at hd
  obtain ⟨n, hrun, hn, hpos⟩ := run_of_forall hx hd acc
  obtain ⟨k, hr, hk, hp⟩ := read_of_stopsAt hn ht
  refine ⟨k, ?_, hk, hp.trans hpos⟩
  rw [hrun, run_stop hr, hpos]
  simp

/-- A run that a class ends is followed by something, or else it is open. -/
theorem run_of_ends (hx : ∀ x ∈ xs, accept x = true) (hr : Ends accept rest) (hne : rest ≠ [])
    (hd : h.Delivers (xs ++ rest) t) (acc : List Char) :
    ∃ m : Head, h.run accept acc = (.ok (acc.reverse ++ xs), m) ∧ m.Delivers rest t ∧
      m.pos = h.pos.after xs := by
  cases rest with
  | nil => exact absurd rfl hne
  | cons c rest => exact run_of_delivers hx (ends_cons.mp hr) hd acc

theorem quoted_close {k : Head} {acc : List Char} (hr : h.read = (.ok (some quoteMark), k)) :
    h.quoted acc = (.ok ((quoteMark :: acc).reverse, true), k.advance quoteMark) := by
  rw [quoted]
  split <;> simp_all

theorem quoted_other {k : Head} {acc : List Char} (hr : h.read = (.ok (some c), k))
    (hc : c ≠ quoteMark) : h.quoted acc = (k.advance c).quoted (c :: acc) := by
  rw [quoted]
  split <;> simp_all

theorem quoted_stop {k : Head} {acc : List Char} (hr : h.read = (stopped e h.pos none, k)) :
    h.quoted acc = (stopped e h.pos (acc.reverse, false), k) := by
  rw [quoted]
  cases e <;> split <;> simp_all [stopped]

theorem quoted_error {k : Head} {acc : List Char} {error : ScanError}
    (hr : h.read = (.error error, k)) : h.quoted acc = (.error error, k) := by
  rw [quoted]
  split <;> simp_all

/-- A string passes what is no quote mark. -/
theorem quoted_of_notMem (hx : quoteMark ∉ xs) (hd : h.Delivers (xs ++ cs) t) (acc : List Char) :
    ∃ m : Head, h.quoted acc = m.quoted (xs.reverse ++ acc) ∧ m.Delivers cs t ∧
      m.pos = h.pos.after xs := by
  induction xs generalizing h acc with
  | nil => exact ⟨h, rfl, hd, rfl⟩
  | cons x xs ih =>
    rw [List.mem_cons, not_or] at hx
    obtain ⟨k, hr, hk, hp, -⟩ := read_of_delivers hd
    obtain ⟨m, hq, hm, hpos⟩ := ih hx.2 (h := k.advance x) hk (x :: acc)
    refine ⟨m, ?_, hm, by simp [hpos, hp]⟩
    rw [quoted_other hr (Ne.symm hx.1), hq]
    simp

theorem quoted_of_delivers (hx : quoteMark ∉ xs) (hd : h.Delivers (xs ++ quoteMark :: rest) t)
    (acc : List Char) :
    ∃ m : Head, h.quoted acc = (.ok (acc.reverse ++ (xs ++ [quoteMark]), true), m) ∧
      m.Delivers rest t ∧ m.pos = h.pos.after (xs ++ [quoteMark]) := by
  obtain ⟨n, hq, hn, hpos⟩ := quoted_of_notMem hx hd acc
  obtain ⟨k, hr, hk, hp, -⟩ := read_of_delivers hn
  refine ⟨k.advance quoteMark, ?_, hk, by simp [hp, hpos]⟩
  rw [hq, quoted_close hr]
  simp

theorem quoted_of_stopsAt (hx : quoteMark ∉ xs) (hd : h.Delivers xs t) (ht : t.StopsAt e u)
    (acc : List Char) :
    ∃ m : Head, h.quoted acc = (stopped e (h.pos.after xs) (acc.reverse ++ xs, false), m) ∧
      m.Delivers [] u ∧ m.pos = h.pos.after xs := by
  rw [← List.append_nil xs] at hd
  obtain ⟨n, hq, hn, hpos⟩ := quoted_of_notMem hx hd acc
  obtain ⟨k, hr, hk, hp⟩ := read_of_stopsAt hn ht
  refine ⟨k, ?_, hk, hp.trans hpos⟩
  rw [hq, quoted_stop hr, hpos]
  simp

theorem scan_blank {k : Head} (hr : h.read = (.ok (some c), k)) (ho : l.opening? c = none) :
    h.scan l source = (k.advance c).scan l source := by
  rw [scan]
  split <;> simp_all

theorem scan_opening {k : Head} {o : Lexicon.Opening} (hr : h.read = (.ok (some c), k))
    (ho : l.opening? c = some o) : h.scan l source =
      ((k.lexeme l c o).1.map fun r => ⟨source, h.pos, r.1, r.2⟩, (k.lexeme l c o).2) := by
  rw [scan]
  split <;> simp_all

theorem scan_stop {k : Head} (hr : h.read = (stopped e h.pos none, k)) :
    h.scan l source = (stopped e h.pos (.final source h.pos), k) := by
  rw [scan]
  cases e <;> split <;> simp_all [stopped, Token.final]

theorem scan_error {k : Head} {error : ScanError} (hr : h.read = (.error error, k)) :
    h.scan l source = (.error error, k) := by
  rw [scan]
  split <;> simp_all

variable (source)

/-- A scan passes the gap before it does anything else. -/
theorem scan_of_gap (hl : l.Sound) {gap : List Char} (hg : ∀ c ∈ gap, isGap c = true)
    (hd : h.Delivers (gap ++ cs) t) :
    ∃ m : Head, h.scan l source = m.scan l source ∧ m.Delivers cs t ∧
      m.pos = h.pos.after gap := by
  induction gap generalizing h with
  | nil => exact ⟨h, rfl, hd, rfl⟩
  | cons c gap ih =>
    rw [List.forall_mem_cons] at hg
    obtain ⟨k, hr, hk, hp, -⟩ := read_of_delivers hd
    obtain ⟨m, hscan, hm, hpos⟩ := ih hg.2 (h := k.advance c) hk
    rw [scan_blank hr (Lexicon.opening?_of_isGap hl hg.1), hscan]
    exact ⟨m, rfl, hm, by simp [hpos, hp]⟩

/-- A scan that meets an opening character does what the head does once it has read it. -/
theorem scan_of_opening {o : Lexicon.Opening} {ds : List Char} {k : Kind} {literal : String}
    (hd : h.Delivers (c :: ds) t) (ho : l.opening? c = some o)
    (hx : ∀ g n : Head, g.read = (.ok (some c), n) → (n.advance c).Delivers ds t → ∃ m : Head,
      n.lexeme l c o = (stopped e ((n.advance c).pos.after cs) (k, literal), m) ∧
        m.Delivers rest u ∧ m.pos = (n.advance c).pos.after cs) :
    ∃ m : Head, h.scan l source =
        (stopped e (h.pos.after (c :: cs)) ⟨source, h.pos, k, literal⟩, m) ∧
      m.Delivers rest u ∧ m.pos = h.pos.after (c :: cs) := by
  obtain ⟨n, hr, hn, hp, -⟩ := read_of_delivers hd
  obtain ⟨m, hm, hrest, hpos⟩ := hx h n hr hn
  rw [pos_advance, hp] at hm hpos
  refine ⟨m, ?_, hrest, hpos⟩
  rw [scan_opening hr ho, hm]
  simp only [map_stopped, Position.after_cons]

/-- A lexeme that other text follows, or that no text could go on with, is scanned by itself. -/
theorem scan_of_lexeme (hl : l.Sound) {k : Kind} (hx : Lexeme l xs k rest)
    (hd : h.Delivers (xs ++ rest) t) (ho : rest = [] → k.isOpen xs = false) :
    ∃ m : Head, h.scan l source = (.ok ⟨source, h.pos, k, k.literal xs⟩, m) ∧
      m.Delivers rest t ∧ m.pos = h.pos.after xs := by
  have hkind := hx.kind_eq_newline_iff hl
  have hne : k.isOpen xs = true → rest ≠ [] := by
    rintro hopen rfl
    simp [ho rfl] at hopen
  cases hx with
  | newline =>
    apply scan_of_opening (e := none) source hd (if_pos rfl)
    intro g n hr hn
    exact ⟨n.advance _, rfl, hn, rfl⟩
  | @symbol c k _ hs =>
    have hk : k ≠ .newline := by simp [hkind, Lexicon.ne_newline_of_isFree (hl.symbol hs).1]
    rw [Kind.literal_of_ne hk]
    apply scan_of_opening (e := none) source hd (Lexicon.opening?_of_symbol hl hs)
    intro g n hr hn
    exact ⟨n.advance _, rfl, hn, rfl⟩
  | integer hc hcs hend =>
    apply scan_of_opening (e := none) source hd (Lexicon.opening?_of_isDigit hl hc)
    intro g n hr hn
    obtain ⟨m, hrun, hm, hpos⟩ := run_of_ends hcs hend (hne rfl) hn [_]
    refine ⟨m, ?_, hm, hpos⟩
    rw [lexeme_digits hr hc, hrun]
    rfl
  | @word c cs _ hc hcs hend =>
    have hw := hl.isWord_wordKind (String.ofList (c :: cs))
    rw [Kind.literal_of_ne (Kind.ne_of_isWord hw rfl)]
    apply scan_of_opening (e := none) source hd (Lexicon.opening?_of_isWordStart hl hc)
    intro g n hr hn
    obtain ⟨m, hrun, hm, hpos⟩ :=
      run_of_ends hcs hend (hne (Kind.isOpen_of_isWord hw _)) hn [_]
    refine ⟨m, ?_, hm, hpos⟩
    rw [lexeme_word hr hc, hrun]
    rfl
  | text hb =>
    rw [List.cons_append, List.append_assoc] at hd
    apply scan_of_opening (e := none) source hd (Lexicon.opening?_quoteMark hl)
    intro g n hr hn
    obtain ⟨m, hq, hm, hpos⟩ := quoted_of_delivers hb hn [quoteMark]
    refine ⟨m, ?_, hm, hpos⟩
    rw [lexeme, hq]
    rfl
  | openText hb => exact absurd rfl (hne (by simp [Kind.isOpen_illegal]))
  | stray hc hs =>
    apply scan_of_opening (e := none) source hd (Lexicon.opening?_of_isFree hc hs)
    intro g n hr hn
    exact ⟨n.advance _, rfl, hn, rfl⟩

/-- An open lexeme at the end of what is delivered takes what stops the stream with it. -/
theorem scan_of_open_lexeme (hl : l.Sound) {k : Kind} (hx : Lexeme l xs k [])
    (hd : h.Delivers xs t) (hopen : k.isOpen xs = true) (ht : t.StopsAt e u) :
    ∃ m : Head, h.scan l source =
        (stopped e (h.pos.after xs) ⟨source, h.pos, k, k.literal xs⟩, m) ∧
      m.Delivers [] u ∧ m.pos = h.pos.after xs := by
  cases hx with
  | newline => cases hopen
  | symbol hs => simp [Kind.isOpen_of_isSymbol (hl.symbol hs).2] at hopen
  | integer hc hcs hend =>
    apply scan_of_opening source hd (Lexicon.opening?_of_isDigit hl hc)
    intro g n hr hn
    obtain ⟨m, hrun, hm, hpos⟩ := run_of_stopsAt hcs hn ht [_]
    refine ⟨m, ?_, hm, hpos⟩
    rw [lexeme_digits hr hc, hrun]
    simp only [map_stopped]
    rfl
  | @word c cs _ hc hcs hend =>
    have hw := hl.isWord_wordKind (String.ofList (c :: cs))
    rw [Kind.literal_of_ne (Kind.ne_of_isWord hw rfl)]
    apply scan_of_opening source hd (Lexicon.opening?_of_isWordStart hl hc)
    intro g n hr hn
    obtain ⟨m, hrun, hm, hpos⟩ := run_of_stopsAt hcs hn ht [_]
    refine ⟨m, ?_, hm, hpos⟩
    rw [lexeme_word hr hc, hrun]
    simp only [map_stopped]
    rfl
  | text hb => cases hopen
  | openText hb =>
    apply scan_of_opening source hd (Lexicon.opening?_quoteMark hl)
    intro g n hr hn
    obtain ⟨m, hq, hm, hpos⟩ := quoted_of_stopsAt hb hn ht [quoteMark]
    refine ⟨m, ?_, hm, hpos⟩
    rw [lexeme, hq]
    simp only [map_stopped]
    rfl
  | stray hc hs => simp [Kind.isOpen_illegal, (Lexicon.isFree_iff.mp hc).2.2.2] at hopen

theorem scan_of_segment (hl : l.Sound) {s : Segment} (hg : ∀ c ∈ s.gap, isGap c = true)
    (hx : Lexeme l s.lexeme s.kind rest) (hd : h.Delivers (s.gap ++ (s.lexeme ++ rest)) t)
    (ho : rest = [] → s.isOpen = false) :
    ∃ m : Head, h.scan l source = (.ok (s.token source h.pos), m) ∧ m.Delivers rest t ∧
      m.pos = h.pos.after s.chars := by
  obtain ⟨k, hscan, hk, hp⟩ := scan_of_gap source hl hg hd
  obtain ⟨m, hm, hd, hpos⟩ := scan_of_lexeme source hl hx hk ho
  refine ⟨m, ?_, hd, by simp [hpos, hp, Segment.chars]⟩
  rw [hscan, hm, hp]
  rfl

theorem scan_of_open_segment (hl : l.Sound) {s : Segment} (hg : ∀ c ∈ s.gap, isGap c = true)
    (hx : Lexeme l s.lexeme s.kind []) (hd : h.Delivers (s.gap ++ s.lexeme) t)
    (ho : s.isOpen = true) (ht : t.StopsAt e u) :
    ∃ m : Head, h.scan l source =
        (stopped e (h.pos.after s.chars) (s.token source h.pos), m) ∧
      m.Delivers [] u ∧ m.pos = h.pos.after s.chars := by
  obtain ⟨k, hscan, hk, hp⟩ := scan_of_gap source hl hg hd
  obtain ⟨m, hm, hd, hpos⟩ := scan_of_open_lexeme source hl hx hk ho ht
  have hchars : k.pos.after s.lexeme = h.pos.after s.chars := by simp [hp, Segment.chars]
  refine ⟨m, ?_, hd, hpos.trans hchars⟩
  rw [hscan, hm, hchars, hp]
  rfl

theorem scan_of_tail (hl : l.Sound) {tail : List Char} (hg : ∀ c ∈ tail, isGap c = true)
    (hd : h.Delivers tail t) (ht : t.StopsAt e u) :
    ∃ m : Head, h.scan l source =
        (stopped e (h.pos.after tail) (.final source (h.pos.after tail)), m) ∧
      m.Delivers [] u ∧ m.pos = h.pos.after tail := by
  rw [← List.append_nil tail] at hd
  obtain ⟨k, hscan, hk, hp⟩ := scan_of_gap source hl hg hd
  obtain ⟨m, hr, hm, hpos⟩ := read_of_stopsAt hk ht
  refine ⟨m, ?_, hm, hpos.trans hp⟩
  rw [hscan, scan_stop hr, hp]

end Head
end LuScan
