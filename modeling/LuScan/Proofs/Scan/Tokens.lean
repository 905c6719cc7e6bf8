import LuScan.Proofs.Scan.Delivered

/-!
Whole runs over a text. The tokens of a text are those of the one way in which the text is cut into
lexemes: each token has the kind and the characters of its lexeme and stands where they begin.
-/
namespace LuScan

namespace Head

variable {l : Lexicon} {h : Head} {cs tail : List Char} {segments : List Segment}

/-- The next characters are `cs`, and nothing ever comes after them. -/
def Holds (h : Head) (cs : List Char) : Prop := ∃ t : ByteStream, h.Delivers cs t ∧ t.Silent

theorem scan_segment_of_holds (source : String) (hl : l.Sound) {s : Segment} {rest : List Char}
    (hg : ∀ c ∈ s.gap, isGap c = true) (hx : Lexeme l s.lexeme s.kind rest)
    (hd : h.Holds (s.gap ++ (s.lexeme ++ rest))) :
    ∃ m : Head, h.scan l source = (.ok (s.token source h.pos), m) ∧ m.Holds rest ∧
      m.pos = h.pos.after s.chars := by
  obtain ⟨t, hd, ht⟩ := hd
  by_cases ho : rest = [] ∧ s.isOpen = true
  · obtain ⟨rfl, ho⟩ := ho
    rw [List.append_nil] at hd
    obtain ⟨m, hscan, hm, hp⟩ := scan_of_open_segment source hl hg hx hd ho ht.stopsAt
    exact ⟨m, hscan, ⟨[], hm, ByteStream.silent_nil⟩, hp⟩
  · have ho : rest = [] → s.isOpen = false := by simpa using ho
    obtain ⟨m, hscan, hm, hp⟩ := scan_of_segment source hl hg hx hd ho
    exact ⟨m, hscan, ⟨t, hm, ht⟩, hp⟩

theorem scan_tail_of_holds (source : String) (hl : l.Sound)
    (hg : ∀ c ∈ tail, isGap c = true) (hd : h.Holds tail) :
    ∃ m : Head, h.scan l source = (.ok (.final source (h.pos.after tail)), m) ∧ m.Holds [] ∧
      m.pos = h.pos.after tail := by
  obtain ⟨t, hd, ht⟩ := hd
  obtain ⟨m, hscan, hm, hp⟩ := scan_of_tail source hl hg hd ht.stopsAt
  exact ⟨m, hscan, ⟨[], hm, ByteStream.silent_nil⟩, hp⟩

/-- Scan after scan gives the tokens, none of them the end of input, and leaves the head `m`. -/
inductive Gives (l : Lexicon) (source : String) : Head → List Token → Head → Prop
  | nil {h : Head} : Gives l source h [] h
  | cons {h k m : Head} {token : Token} {ts : List Token} :
      h.scan l source = (.ok token, k) → token.kind ≠ .endOfInput → Gives l source k ts m →
      Gives l source h (token :: ts) m

/-- All that is left of a stream is given as the tokens of its segments, but for the gap at its end.
-/
theorem exists_gives_of_holds (source : String) (hl : l.Sound) (hf : Fits l tail segments)
    (hh : h.Holds (spell segments tail)) :
    ∃ m : Head, Gives l source h (tokensFrom source h.pos segments) m ∧ m.Holds tail ∧
      (∀ c ∈ tail, isGap c = true) ∧ m.pos.after tail = h.pos.after (spell segments tail) := by
  induction segments generalizing h with
  | nil => exact ⟨h, .nil, hh, hf, rfl⟩
  | cons s segments ih =>
    obtain ⟨hg, hx, hf⟩ := hf
    rw [spell_cons] at hh
    obtain ⟨k, hscan, hk, hp⟩ := scan_segment_of_holds source hl hg hx hh
    obtain ⟨m, hgives, hm, hgap, hpos⟩ := ih hf hk
    rw [hp] at hgives hpos
    refine ⟨m, .cons hscan (hx.kind_ne_endOfInput hl) hgives, hm, hgap, ?_⟩
    rw [hpos, spell_cons, ← List.append_assoc, Position.after_append]
    rfl

end Head

namespace Scanner

variable {s t : Scanner} {r : Except ScanError Token}

/-- One more result of a drain is what is pulled first. -/
theorem drainFrom_of_pull (acc : List (Except ScanError Token)) (hp : s.pull = (some r, t)) :
    s.drainFrom acc = t.drainFrom (r :: acc) := by
  rw [drainFrom]
  split <;> simp_all

theorem drainFrom_of_pull_none (acc : List (Except ScanError Token))
    (hp : s.pull = (none, t)) : s.drainFrom acc = (acc.reverse, t) := by
  rw [drainFrom]
  split <;> simp_all

theorem pull_of_done (hd : s.done = true) : s.pull = (none, s) := if_pos hd

theorem drainFrom_of_done (acc : List (Except ScanError Token))
    (hd : s.done = true) : s.drainFrom acc = (acc.reverse, s) :=
  drainFrom_of_pull_none acc (pull_of_done hd)

theorem pull_of_scan {m : Head} (hd : s.done = false)
    (hs : s.head.scan s.lexicon s.source = (r, m)) :
    s.pull = (some r, { s with head := m, done := isFinal r }) := by
  simp [pull, scan, hd, hs]

theorem drainFrom_eq (s : Scanner) (acc : List (Except ScanError Token)) :
    s.drainFrom acc = (acc.reverse ++ s.drain.1, s.drain.2) := by
  generalize hn : s.remaining = n
  induction n using Nat.strongRecOn generalizing s acc with
  | ind n ih =>
    unfold drain
    rcases hp : s.pull with ⟨answer, t⟩
    cases answer with
    | none =>
      rw [drainFrom_of_pull_none acc hp, drainFrom_of_pull_none [] hp]
      simp
    | some r =>
      have hlt := remaining_pull_lt hp
      rw [hn] at hlt
      rw [drainFrom_of_pull acc hp, drainFrom_of_pull [] hp, ih _ hlt t _ rfl, ih _ hlt t _ rfl]
      simp

theorem drain_eq_of_pull (hp : s.pull = (some r, t)) :
    s.drain = (r :: t.drain.1, t.drain.2) := by
  rw [drain, drainFrom_of_pull [] hp, drainFrom_eq]
  rfl

/-- A drain gives the tokens before the last result and that result. -/
theorem drain_of_gives {l : Lexicon} {source : String} {h m k : Head} {ts : List Token}
    (hg : Head.Gives l source h ts m) (hm : m.scan l source = (r, k)) (hr : isFinal r = true) :
    (Scanner.mk source l h false).drain = (ts.map .ok ++ [r], ⟨source, l, k, true⟩) := by
  induction hg with
  | @nil h =>
    have hp := pull_of_scan (s := ⟨source, l, h, false⟩) rfl hm
    rw [hr] at hp
    rw [drain_eq_of_pull hp, drain, drainFrom_of_done [] rfl]
    rfl
  | @cons h k m token ts hscan hkind _ ih =>
    have hp := pull_of_scan (s := ⟨source, l, h, false⟩) rfl hscan
    have hfinal : isFinal (.ok token) = false := beq_false_of_ne hkind
    rw [hfinal] at hp
    rw [drain_eq_of_pull hp, ih hm]
    rfl

theorem mapM_map_ok_concat {ε α : Type} (as : List α) (r : Except ε α) :
    (as.map Except.ok ++ [r]).mapM id = r.map fun a => as ++ [a] := by
  induction as with
  | nil => cases r <;> rfl
  | cons a as ih =>
    rw [List.map_cons, List.cons_append, List.mapM_cons, ih]
    cases r <;> rfl

end Scanner

/-- The tokens of a text under a lexicon. -/
def Lexicon.scanText (l : Lexicon) (source text : String) : Except ScanError (List Token) :=
  (Scanner.ofStream source l (.ofText text)).tokens

/-- A stream that ends after some characters has the tokens of any way to cut them. -/
theorem Scanner.tokens_of_cuts {l : Lexicon} (hl : l.Sound) (source : String)
    {stream rest : ByteStream} {text : List Char} {d : Segmentation} (hd : d.Cuts l text)
    (hs : stream.Delivers text rest) (hrest : rest.Silent) :
    (Scanner.ofStream source l stream).tokens =
      .ok (d.tokens source ++ [Token.final source (Position.start.after text)]) := by
  have hh : (Scanner.ofStream source l stream).head.Holds (spell d.segments d.tail) := by
    rw [hd.spell_eq]
    exact ⟨rest, Reader.delivers_ofStream hs, hrest⟩
  obtain ⟨m, hgives, hm, hgap, hp⟩ := Head.exists_gives_of_holds source hl hd.fits hh
  obtain ⟨k, hscan, -, -⟩ := Head.scan_tail_of_holds source hl hgap hm
  rw [hp, hd.spell_eq] at hscan
  have hdrain : (Scanner.ofStream source l stream).drain = _ :=
    Scanner.drain_of_gives hgives hscan rfl
  rw [Scanner.tokens, hdrain]
  exact Scanner.mapM_map_ok_concat _ _

/-- A text has the tokens of any way to cut it. -/
theorem scanText_of_cuts {l : Lexicon} (hl : l.Sound) (source : String) {text : String}
    {d : Segmentation} (hd : d.Cuts l text.toList) :
    l.scanText source text =
      .ok (d.tokens source ++ [Token.final source (Position.start.after text.toList)]) :=
  Scanner.tokens_of_cuts hl source hd (ByteStream.delivers_ofText text)
    (by simp [ByteStream.Silent])

end LuScan
