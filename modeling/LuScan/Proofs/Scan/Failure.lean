import LuScan.Proofs.Scan.Concatenation

/-!
Streams that fail. What is pulled are the tokens of the text before the failure, except that a token
which is still open there is lost, and then the failure, where that text ends.
-/
namespace LuScan

namespace Token

/-- The token reaches the end `e` of its source, and more text could go on with it. -/
def isOpenAt (t : Token) (e : Position) : Bool := t.stop == e && t.kind.isOpen t.literal.toList

/-- The tokens of a source that ends at `e` without one that is open there. -/
def settled (e : Position) (ts : List Token) : List Token :=
  if ts.getLast?.any (·.isOpenAt e) then ts.dropLast else ts

/-- The tokens of a source that ends at `e`, and the end of input after them unless one is open
there. -/
def reported (source : String) (e : Position) (ts : List Token) : List Token :=
  ts ++ if ts.getLast?.any (·.isOpenAt e) then [] else [.final source e]

end Token

variable {l : Lexicon} {source : String} {tail : List Char} {segments : List Segment}

/-- The last token is open at the end if its lexeme is and no gap comes after it. -/
theorem any_isOpenAt_tokensFrom (hl : l.Sound) (hf : Fits l tail segments) (p : Position) :
    (tokensFrom source p segments).getLast?.any (·.isOpenAt (p.after (spell segments tail))) =
      (tail.isEmpty && segments.getLast?.any Segment.isOpen) := by
  cases hs : segments.getLast? with
  | none =>
    rw [List.getLast?_eq_none_iff] at hs
    subst hs
    simp [tokensFrom]
  | some s =>
    have hbefore := (fits_iff_fitsBefore.mp hf).1
    obtain ⟨t, ht, hkind, hunclosed, hstop⟩ :=
      exists_getLast?_tokensFrom hl hbefore source p (Option.mem_def.mpr hs)
    have hopen : t.kind.isOpen t.literal.toList = s.isOpen := by
      rw [Token.isUnclosed] at hunclosed
      rw [Segment.isOpen, Kind.isOpen, Kind.isOpen, hunclosed, hkind]
    have hend : p.after (spell segments tail) = t.stop.after tail := by
      rw [spell_eq_append, Position.after_append, hstop]
    rw [Option.mem_def.mp ht, Option.any_some, Option.any_some, Token.isOpenAt, hopen, hend]
    cases tail with
    | nil => simp
    | cons c cs =>
      have hne : t.stop ≠ t.stop.after (c :: cs) := (Position.lt_after _ (by simp)).ne
      rw [beq_false_of_ne hne]
      rfl

namespace Head

variable {h k m : Head} {after : List Char} {t u : ByteStream}

/-- Segments are given as their tokens if more follows the last one, or if it is not open. -/
theorem exists_gives (source : String) (hl : l.Sound) (hf : FitsBefore l after segments)
    (hd : h.Delivers (spell segments after) t)
    (hlast : after = [] → ∀ s ∈ segments.getLast?, s.isOpen = false) :
    ∃ m : Head, Gives l source h (tokensFrom source h.pos segments) m ∧ m.Delivers after t ∧
      m.pos = h.pos.after (spell segments []) := by
  induction segments generalizing h with
  | nil => exact ⟨h, .nil, hd, rfl⟩
  | cons s segments ih =>
    obtain ⟨hg, hx, hf⟩ := hf
    have hopen : spell segments after = [] → s.isOpen = false := by
      intro hnil
      rw [spell_eq_append] at hnil
      obtain ⟨hnone, hafter⟩ := List.append_eq_nil_iff.mp hnil
      have hsegments : segments = [] := by
        by_contra hne
        exact hf.spell_ne_nil hl hne hnone
      subst hsegments
      exact hlast hafter s rfl
    have hrest : after = [] → ∀ s ∈ segments.getLast?, s.isOpen = false := by
      intro hafter u hu
      apply hlast hafter u
      cases segments with
      | nil => cases hu
      | cons v segments => rwa [List.getLast?_cons_cons]
    rw [spell_cons] at hd
    obtain ⟨k, hscan, hk, hp⟩ := scan_of_segment source hl hg hx hd hopen
    obtain ⟨m, hgives, hm, hpos⟩ := ih hf hk hrest
    rw [hp] at hgives hpos
    refine ⟨m, .cons hscan (hx.kind_ne_endOfInput hl) hgives, hm, ?_⟩
    rw [hpos, spell_cons, ← List.append_assoc, Position.after_append]
    rfl

/-- Where the stream stops after a text that is cut, the settled tokens are given before that. The
scan that meets the stop would give the token that is open there, or else the end of input. -/
theorem exists_gives_of_stop (source : String) (hl : l.Sound) {e : Option ReadError}
    (hf : Fits l tail segments) (hd : h.Delivers (spell segments tail) t) (ht : t.StopsAt e u) :
    ∃ (m k : Head) (last : Token), Gives l source h
        (Token.settled (h.pos.after (spell segments tail)) (tokensFrom source h.pos segments)) m ∧
      m.scan l source = (stopped e (h.pos.after (spell segments tail)) last, k) ∧
      k.Delivers [] u ∧ k.pos = h.pos.after (spell segments tail) ∧
      Token.settled (h.pos.after (spell segments tail)) (tokensFrom source h.pos segments) ++
          [last] =
        Token.reported source (h.pos.after (spell segments tail))
          (tokensFrom source h.pos segments) := by
  rw [Token.settled, Token.reported, any_isOpenAt_tokensFrom hl hf, dropLast_tokensFrom]
  split
  next hlost =>
    -- The last segment is open at the stop: the ones before it are given, and it meets the stop.
    obtain ⟨htail, hlast⟩ := Bool.and_eq_true_iff.mp hlost
    obtain rfl := List.isEmpty_iff.mp htail
    obtain ⟨s, hs, hopen⟩ := (Option.any_eq_true _ _).mp hlast
    obtain ⟨init, rfl⟩ := List.getLast?_eq_some_iff.mp hs
    obtain ⟨hinit, hg, hx, -⟩ := fits_append_iff.mp hf
    have hne : spell [s] [] ≠ [] := by
      rw [spell_cons]
      simp [hx.ne_nil hl]
    rw [spell_append] at hd
    obtain ⟨m, hgives, hm, hp⟩ := exists_gives source hl hinit hd fun hnil => absurd hnil hne
    rw [spell_cons, spell_nil, List.append_nil] at hm
    obtain ⟨k, hscan, hk, hkpos⟩ := scan_of_open_segment source hl hg hx hm hopen ht
    have hend : m.pos.after s.chars = h.pos.after (spell (init ++ [s]) []) := by
      rw [hp, spell_append, spell_eq_append init (spell [s] []), Position.after_append]
      simp [Segment.chars]
    rw [hend] at hscan hkpos
    rw [List.dropLast_concat]
    refine ⟨m, k, _, hgives, hscan, hk, hkpos, ?_⟩
    rw [tokensFrom_append, ← hp, List.append_nil]
    rfl
  next hkept =>
    -- Everything is settled, and only the gap at the end is passed before the stop.
    obtain ⟨hbefore, hgap⟩ := fits_iff_fitsBefore.mp hf
    have hlast : tail = [] → ∀ s ∈ segments.getLast?, s.isOpen = false := by
      rintro rfl s hs
      rw [Option.mem_def.mp hs] at hkept
      simpa using hkept
    obtain ⟨m, hgives, hm, hp⟩ := exists_gives source hl hbefore hd hlast
    obtain ⟨k, hscan, hk, hkpos⟩ := scan_of_tail source hl hgap hm ht
    have hend : m.pos.after tail = h.pos.after (spell segments tail) := by
      rw [hp, spell_eq_append segments tail, Position.after_append]
    rw [hend] at hscan hkpos
    exact ⟨m, k, _, hgives, hscan, hk, hkpos, rfl⟩

end Head

namespace Scanner

variable {s t : Scanner} {r : Except ScanError Token}

/-- What the pull after `n` others gives. -/
def pulled (s : Scanner) : Nat → Option (Except ScanError Token)
  | 0 => s.pull.1
  | n + 1 => s.pull.2.pulled n

theorem drain_of_pull_none (hp : s.pull = (none, t)) : s.drain.1 = [] := by
  rw [drain, drainFrom_of_pull_none [] hp]
  rfl

theorem drain_of_pull (hp : s.pull = (some r, t)) : s.drain.1 = r :: t.drain.1 := by
  rw [drain_eq_of_pull hp]

theorem eq_of_pull_none (hp : s.pull = (none, t)) : t = s := by
  unfold pull at hp
  split at hp
  · cases hp
    rfl
  · cases hp

/-- Pull after pull gives what a drain gives, and then nothing for ever. -/
theorem pulled_eq_getElem?_drain (s : Scanner) (n : Nat) : s.pulled n = s.drain.1[n]? := by
  induction n generalizing s with
  | zero =>
    rw [pulled]
    rcases hp : s.pull with ⟨answer, t⟩
    cases answer with
    | none => rw [drain_of_pull_none hp, List.getElem?_nil]
    | some r => rw [drain_of_pull hp, List.getElem?_cons_zero]
  | succ n ih =>
    rw [pulled, ih]
    rcases hp : s.pull with ⟨answer, t⟩
    cases answer with
    | none =>
      obtain rfl := eq_of_pull_none hp
      rw [drain_of_pull_none hp, List.getElem?_nil, List.getElem?_nil]
    | some r => rw [drain_of_pull hp, List.getElem?_cons_succ]

end Scanner

/-- A stream that fails right after a text gives the tokens of the text, without the last one if it
is open where the text ends, then the failure at that place, and then nothing for ever. All of its
tokens together are that failure. -/
theorem pulled_of_failure (hl : l.Reachable) (source text : String)
    {stream rest after : ByteStream} {e : ReadError}
    (hfeed : stream.Feeds (Utf8.encode text) rest) (hfail : rest.char = (.error e, after)) :
    ∃ (ts : List Token) (p : Position),
      l.scanText source text = .ok (ts ++ [Token.final source p]) ∧
      (∀ t ∈ ts, t.kind ≠ .endOfInput) ∧
      (∀ n, (Scanner.ofStream source l stream).pulled n =
        ((Token.settled p ts).map .ok ++ [.error ⟨.stream e, p⟩])[n]?) ∧
      (Scanner.ofStream source l stream).tokens = .error ⟨.stream e, p⟩ := by
  obtain ⟨d, hd, -⟩ := existsUnique_cuts hl.sound text.toList
  have hdelivers : (Scanner.ofStream source l stream).head.Delivers
      (spell d.segments d.tail) rest := by
    rw [hd.spell_eq]
    exact Reader.delivers_ofStream (ByteStream.delivers_of_feeds hfeed)
  obtain ⟨m, k, last, hgives, hscan, -, -, -⟩ :=
    Head.exists_gives_of_stop (e := some e) source hl.sound hd.fits hdelivers hfail
  have hdrain := congrArg Prod.fst (Scanner.drain_of_gives hgives hscan rfl)
  rw [hd.spell_eq] at hdrain
  refine ⟨_, _, scanText_of_cuts hl.sound source hd, ?_, ?_, ?_⟩
  · intro t ht
    exact kind_ne_endOfInput_of_mem_tokensFrom hl.sound hd.fits ht
  · intro n
    rw [Scanner.pulled_eq_getElem?_drain]
    exact congrArg (·[n]?) hdrain
  · rw [Scanner.tokens]
    exact (congrArg (List.mapM id) hdrain).trans (Scanner.mapM_map_ok_concat _ _)

/-- The number that the failure cuts off is lost, and the word before it is not. -/
theorem pulled_of_failure_in_number : Lexicon.standard.Reachable ∧
    ByteStream.Feeds [.bytes [97, 32], .interrupted, .bytes [48, 55], .failed ⟨.other, "gone"⟩]
      (Utf8.encode "a 07") [.bytes [], .failed ⟨.other, "gone"⟩] ∧
    ByteStream.char [.bytes [], .failed ⟨.other, "gone"⟩] =
      (.error (.failed ⟨.other, "gone"⟩), []) ∧
    (∀ n, (Scanner.ofStream "m" .standard [.bytes [97, 32], .interrupted, .bytes [48, 55],
        .failed ⟨.other, "gone"⟩]).pulled n =
      [.ok ⟨"m", ⟨1, 0⟩, .identifier, "a"⟩,
        .error ⟨.stream (.failed ⟨.other, "gone"⟩), ⟨1, 4⟩⟩][n]?) ∧
    (Scanner.ofStream "m" .standard [.bytes [97, 32], .interrupted, .bytes [48, 55],
      .failed ⟨.other, "gone"⟩]).tokens =
        .error ⟨.stream (.failed ⟨.other, "gone"⟩), ⟨1, 4⟩⟩ := by
  have hfeed : ByteStream.Feeds [.bytes [97, 32], .interrupted, .bytes [48, 55],
      .failed ⟨.other, "gone"⟩] (Utf8.encode "a 07") [.bytes [], .failed ⟨.other, "gone"⟩] := by
    have hbytes : Utf8.encode "a 07" = [97, 32, 48, 55] := by decide +kernel
    rw [hbytes]
    exact .cons rfl (.cons rfl (.cons rfl (.cons rfl .nil)))
  have htext : Lexicon.standard.scanText "m" "a 07" =
      .ok ([⟨"m", ⟨1, 0⟩, .identifier, "a"⟩, ⟨"m", ⟨1, 2⟩, .integer, "07"⟩] ++
        [Token.final "m" ⟨1, 4⟩]) := by decide +kernel
  have hsettled : Token.settled ⟨1, 4⟩ [⟨"m", ⟨1, 0⟩, .identifier, "a"⟩,
      ⟨"m", ⟨1, 2⟩, .integer, "07"⟩] = [⟨"m", ⟨1, 0⟩, .identifier, "a"⟩] := by decide +kernel
  obtain ⟨ts, p, hts, -, hpulled, htokens⟩ := pulled_of_failure .standard "m" "a 07" hfeed rfl
  obtain ⟨rfl, he⟩ := List.append_inj' (Except.ok.inj (htext.symm.trans hts)) rfl
  obtain rfl : ⟨1, 4⟩ = p := by simpa [Token.final] using he
  rw [hsettled] at hpulled
  exact ⟨.standard, hfeed, rfl, hpulled, htokens⟩

end LuScan
