import LuScan.Proofs.Scan.Calls
import LuScan.Proofs.Scan.Delivered
import LuScan.Proofs.Stream.Normal

/-!
Runs on streams of one normal form. Readers and scanners give the same answers to the same calls,
wherever chunks end and interruptions come.
-/
namespace LuScan

namespace Head

variable {h k m t : Head}

/-- The heads stand at one position and have similar readers. -/
structure Similar (h k : Head) : Prop where
  reader : h.reader.Similar k.reader
  pos_eq : h.pos = k.pos

theorem Similar.exists_read (hs : h.Similar k) {r : Except ScanError (Option Char)}
    (hr : h.read = (r, t)) : ∃ u, k.read = (r, u) ∧ t.Similar u := by
  obtain ⟨hreader, hpos⟩ := hs
  rcases hread : h.reader.read with ⟨result, s⟩
  obtain ⟨p, hread', hp⟩ := hreader.exists_read hread
  unfold read at hr ⊢
  rw [hread] at hr
  rw [hread', ← hpos]
  cases result with
  | error e | ok c =>
    cases hr
    exact ⟨_, rfl, hp, rfl⟩

theorem Similar.exists_unread (hs : h.Similar k) {r : Except ScanError Unit}
    (hr : h.unread = (r, t)) : ∃ u, k.unread = (r, u) ∧ t.Similar u := by
  obtain ⟨hreader, hpos⟩ := hs
  rcases hunread : h.reader.unread with ⟨done, s⟩
  obtain ⟨p, hunread', hp⟩ := hreader.exists_unread hunread
  unfold unread at hr ⊢
  rw [hunread] at hr
  rw [hunread', ← hpos]
  cases done with
  | false | true =>
    cases hr
    exact ⟨_, rfl, hp, rfl⟩

theorem Similar.advance (hs : h.Similar k) (c : Char) : (h.advance c).Similar (k.advance c) where
  reader := hs.reader
  pos_eq := congrArg (Position.advance · c) hs.pos_eq

theorem Similar.run (hs : h.Similar k) (accept : Char → Bool) (acc : List Char) :
    (h.run accept acc).1 = (k.run accept acc).1 ∧
      (h.run accept acc).2.Similar (k.run accept acc).2 := by
  fun_induction Head.run accept acc h generalizing k with
  | case1 acc h e t hr =>
    obtain ⟨u, hr', hu⟩ := hs.exists_read hr
    rw [run_error hr']
    exact ⟨rfl, hu⟩
  | case2 acc h t hr =>
    obtain ⟨u, hr', hu⟩ := hs.exists_read hr
    rw [run_stop (e := none) hr']
    exact ⟨rfl, hu⟩
  | case3 acc h c t hr hc ih =>
    obtain ⟨u, hr', hu⟩ := hs.exists_read hr
    rw [run_accept hr' hc]
    exact ih (hu.advance c)
  | case4 acc h c t hr hc m hm =>
    obtain ⟨u, hr', hu⟩ := hs.exists_read hr
    obtain ⟨n, hn, hsimilar⟩ := hu.exists_unread hm
    rw [run_refuse hr' (Bool.eq_false_iff.mpr hc) hn]
    exact ⟨rfl, hsimilar⟩
  | case5 acc h c t hr hc e m hm =>
    -- What was just read can be pushed back.
    rw [unread_of_read hr] at hm
    cases hm

theorem Similar.rerun (hs : h.Similar k) (accept : Char → Bool) :
    (h.rerun accept).1 = (k.rerun accept).1 ∧
      (h.rerun accept).2.Similar (k.rerun accept).2 := by
  rcases hm : h.unread with ⟨r, m⟩
  obtain ⟨n, hn, hsimilar⟩ := hs.exists_unread hm
  unfold Head.rerun
  rw [hm, hn]
  cases r with
  | ok => exact hsimilar.run accept []
  | error e => exact ⟨rfl, hsimilar⟩

theorem Similar.quoted (hs : h.Similar k) (acc : List Char) :
    (h.quoted acc).1 = (k.quoted acc).1 ∧ (h.quoted acc).2.Similar (k.quoted acc).2 := by
  fun_induction Head.quoted acc h generalizing k with
  | case1 acc h e t hr =>
    obtain ⟨u, hr', hu⟩ := hs.exists_read hr
    rw [quoted_error hr']
    exact ⟨rfl, hu⟩
  | case2 acc h t hr =>
    obtain ⟨u, hr', hu⟩ := hs.exists_read hr
    rw [quoted_stop (e := none) hr']
    exact ⟨rfl, hu⟩
  | case3 acc h t hr =>
    obtain ⟨u, hr', hu⟩ := hs.exists_read hr
    rw [quoted_close hr']
    exact ⟨rfl, hu.advance quoteMark⟩
  | case4 acc h c t hr hc ih =>
    obtain ⟨u, hr', hu⟩ := hs.exists_read hr
    rw [quoted_other hr' hc]
    exact ih (hu.advance c)

theorem Similar.lexeme (hs : h.Similar k) (l : Lexicon) (c : Char) (o : Lexicon.Opening) :
    (h.lexeme l c o).1 = (k.lexeme l c o).1 ∧ (h.lexeme l c o).2.Similar (k.lexeme l c o).2 := by
  cases o with
  | newline | symbol _ | stray => exact ⟨rfl, hs.advance c⟩
  | digits =>
    obtain ⟨hresult, hrest⟩ := hs.rerun isDigit
    exact ⟨congrArg (Except.map _) hresult, hrest⟩
  | word =>
    obtain ⟨hresult, hrest⟩ := hs.rerun isWordPart
    exact ⟨congrArg (Except.map _) hresult, hrest⟩
  | text =>
    obtain ⟨hresult, hrest⟩ := (hs.advance c).quoted [c]
    exact ⟨congrArg (Except.map _) hresult, hrest⟩

theorem Similar.scan (hs : h.Similar k) (l : Lexicon) (source : String) :
    (h.scan l source).1 = (k.scan l source).1 ∧
      (h.scan l source).2.Similar (k.scan l source).2 := by
  fun_induction Head.scan l source h generalizing k with
  | case1 h e t hr =>
    obtain ⟨u, hr', hu⟩ := hs.exists_read hr
    rw [scan_error hr']
    exact ⟨rfl, hu⟩
  | case2 h t hr =>
    obtain ⟨u, hr', hu⟩ := hs.exists_read hr
    rw [scan_stop (e := none) hr', hs.pos_eq]
    exact ⟨rfl, hu⟩
  | case3 h c t hr ho ih =>
    obtain ⟨u, hr', hu⟩ := hs.exists_read hr
    rw [scan_blank hr' ho]
    exact ih (hu.advance c)
  | case4 h c t hr o ho =>
    obtain ⟨u, hr', hu⟩ := hs.exists_read hr
    obtain ⟨hresult, hrest⟩ := hu.lexeme l c o
    rw [scan_opening hr' ho, hs.pos_eq]
    exact ⟨congrArg (Except.map _) hresult, hrest⟩

end Head

namespace Scanner

variable {s t u : Scanner}

/-- The scanners differ at most in how the bytes of their streams are delivered. -/
structure Similar (s t : Scanner) : Prop where
  head : s.head.Similar t.head
  source_eq : s.source = t.source
  lexicon_eq : s.lexicon = t.lexicon
  done_eq : s.done = t.done

theorem Similar.ofStream (source : String) (l : Lexicon) {x y : ByteStream}
    (h : x.normal = y.normal) : (ofStream source l x).Similar (ofStream source l y) where
  head := ⟨⟨h, rfl, rfl⟩, rfl⟩
  source_eq := rfl
  lexicon_eq := rfl
  done_eq := rfl

theorem Similar.scan (h : s.Similar t) : s.scan.1 = t.scan.1 ∧ s.scan.2.Similar t.scan.2 := by
  obtain ⟨hhead, hsource, hlexicon, hdone⟩ := h
  obtain ⟨hresult, hrest⟩ := hhead.scan s.lexicon s.source
  unfold Scanner.scan
  rw [← hsource, ← hlexicon]
  exact ⟨hresult, hrest, rfl, rfl, hdone⟩

theorem Similar.call (h : s.Similar t) (c : Call) :
    (s.call c).1 = (t.call c).1 ∧ (s.call c).2.Similar (t.call c).2 := by
  obtain ⟨hresult, hrest⟩ := h.scan
  cases c with
  | scan => exact ⟨congrArg some hresult, hrest⟩
  | pull =>
    show s.pull.1 = t.pull.1 ∧ s.pull.2.Similar t.pull.2
    unfold pull
    rw [← h.done_eq]
    split
    · exact ⟨rfl, h⟩
    · show some s.scan.1 = some t.scan.1 ∧ _
      rw [← hresult]
      exact ⟨rfl, hrest.head, hrest.source_eq, hrest.lexicon_eq, congrArg isFinal hresult⟩

theorem Similar.run (h : s.Similar t) (calls : List Call) :
    (s.run calls).1 = (t.run calls).1 ∧ (s.run calls).2.Similar (t.run calls).2 := by
  induction calls generalizing s t with
  | nil => exact ⟨rfl, h⟩
  | cons c calls ih =>
    obtain ⟨hanswer, hnext⟩ := h.call c
    obtain ⟨hanswers, hrest⟩ := ih hnext
    refine ⟨?_, hrest⟩
    show (s.call c).1 :: _ = (t.call c).1 :: _
    rw [hanswer, hanswers]

end Scanner

/-- Streams that have the same bytes, end reports and failures in the same order give the same
answers to any calls, on a reader or on a scanner, and what is left of them has one normal form
again. -/
theorem run_eq_of_normal_eq {s t : ByteStream} (h : s.normal = t.normal) :
    (∀ calls : List Reader.Call,
      ((Reader.ofStream s).run calls).1 = ((Reader.ofStream t).run calls).1 ∧
      ((Reader.ofStream s).run calls).2.stream.normal =
        ((Reader.ofStream t).run calls).2.stream.normal) ∧
    ∀ (l : Lexicon) (source : String) (calls : List Call),
      ((Scanner.ofStream source l s).run calls).1 = ((Scanner.ofStream source l t).run calls).1 ∧
      ((Scanner.ofStream source l s).run calls).2.head.reader.stream.normal =
        ((Scanner.ofStream source l t).run calls).2.head.reader.stream.normal := by
  constructor
  · intro calls
    have hstart : (Reader.ofStream s).Similar (.ofStream t) := ⟨h, rfl, rfl⟩
    obtain ⟨hanswers, hrest⟩ := hstart.run calls
    exact ⟨hanswers, hrest.normal_eq⟩
  · intro l source calls
    obtain ⟨hanswers, hrest⟩ := (Scanner.Similar.ofStream source l h).run calls
    exact ⟨hanswers, hrest.head.reader.normal_eq⟩

/-- A word whose second character comes in one chunk, or in two with an interruption between them,
before a failure and a digit. -/
theorem run_eq_of_normal_eq_in_character : ∃ s t : ByteStream,
    s = [.bytes [97, 195, 169], .endReport, .interrupted, .failed ⟨.other, "gone"⟩, .bytes [49]] ∧
    t = [.bytes [97, 195], .bytes [], .interrupted, .bytes [169], .endReport,
      .failed ⟨.other, "gone"⟩, .bytes [49]] ∧
    s.normal = t.normal ∧
    ((Scanner.ofStream "m" .standard s).run [.pull, .scan, .pull, .pull]).1 =
      [some (.ok ⟨"m", ⟨1, 0⟩, .identifier, "aé"⟩),
        some (.error ⟨.stream (.failed ⟨.other, "gone"⟩), ⟨1, 2⟩⟩),
        some (.ok ⟨"m", ⟨1, 2⟩, .integer, "1"⟩), some (.ok ⟨"m", ⟨1, 3⟩, .endOfInput, ""⟩)] ∧
    (∀ calls : List Reader.Call,
      ((Reader.ofStream s).run calls).1 = ((Reader.ofStream t).run calls).1 ∧
      ((Reader.ofStream s).run calls).2.stream.normal =
        ((Reader.ofStream t).run calls).2.stream.normal) ∧
    ∀ (l : Lexicon) (source : String) (calls : List Call),
      ((Scanner.ofStream source l s).run calls).1 = ((Scanner.ofStream source l t).run calls).1 ∧
      ((Scanner.ofStream source l s).run calls).2.head.reader.stream.normal =
        ((Scanner.ofStream source l t).run calls).2.head.reader.stream.normal := by
  refine ⟨_, _, rfl, rfl, rfl, by decide +kernel, ?_⟩
  exact run_eq_of_normal_eq rfl

end LuScan
