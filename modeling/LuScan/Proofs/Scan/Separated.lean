import LuScan.Proofs.Scan.Protocol

/-!
Texts with an end report between each and the next. The report separates their tokens, and shows
as an end of input unless a token that is open there takes it.
-/
namespace LuScan

/-- The stream has the bytes of the texts, one end report between each of them and the next, and
nothing but its end after the last. -/
inductive ByteStream.FeedsTexts : ByteStream → List String → Prop
  | last {s rest : ByteStream} {p : String} :
      s.Feeds (Utf8.encode p) rest → rest.Silent → FeedsTexts s [p]
  | cons {s rest after : ByteStream} {p : String} {ps : List String} :
      s.Feeds (Utf8.encode p) rest → rest.next = (.ok none, after) → FeedsTexts after ps →
      FeedsTexts s (p :: ps)

/-- The tokens of texts, each of them given with its own tokens, that come after `before`. Between
two texts stands an end of input, unless the last token of the first one is open where it ends. -/
def Token.separated (source : String) : List Char → List (String × List Token) → List Token
  | _, [] => []
  | before, (p, ts) :: parts =>
    ts.map (.rebase (.ofText before)) ++
      (if parts.isEmpty || ts.getLast?.any (·.isOpenAt (.ofText p.toList)) then []
        else [.final source (.ofText (before ++ p.toList))]) ++
      separated source (before ++ p.toList) parts

variable {l : Lexicon} {source : String} {h : Head} {tail : List Char} {segments : List Segment}

namespace Scanner

/-- At the end of all input, scans give nothing else. -/
theorem scans_of_holds_gap (source : String) (hl : l.Sound) (hg : ∀ c ∈ tail, isGap c = true)
    (hh : h.Holds tail) (done : Bool) (n : Nat) : (Scanner.mk source l h done).scans n =
      List.replicate n (.ok (.final source (h.pos.after tail))) := by
  induction n generalizing h tail with
  | zero => rfl
  | succ n ih =>
    obtain ⟨m, hscan, hm, hp⟩ := Head.scan_tail_of_holds source hl hg hh
    have hrest := ih (by simp) hm
    rw [Position.after_nil, hp] at hrest
    rw [scans_succ (s := ⟨source, l, h, done⟩) hscan, hrest]
    rfl

/-- Scans over all that is left of a stream give the tokens of its segments, and then the end of
input for ever. -/
theorem scans_of_holds (source : String) (hl : l.Sound) (hf : Fits l tail segments)
    (hh : h.Holds (spell segments tail)) (done : Bool) (n : Nat) :
    (Scanner.mk source l h done).scans ((tokensFrom source h.pos segments).length + n) =
      (tokensFrom source h.pos segments).map .ok ++
        List.replicate n (.ok (.final source (h.pos.after (spell segments tail)))) := by
  obtain ⟨m, hgives, hm, hgap, hp⟩ := Head.exists_gives_of_holds source hl hf hh
  rw [scans_of_gives hgives, scans_of_holds_gap source hl hgap hm, hp]

/-- Scans up to an end report give what it lets show of the segments before it. -/
theorem exists_scans_of_endReport (source : String) (hl : l.Sound) (hf : Fits l tail segments)
    {t u : ByteStream} (hd : h.Delivers (spell segments tail) t) (ht : t.next = (.ok none, u))
    (done : Bool) : ∃ k : Head, k.Delivers [] u ∧ k.pos = h.pos.after (spell segments tail) ∧
      ∀ n, (Scanner.mk source l h done).scans ((Token.reported source
          (h.pos.after (spell segments tail)) (tokensFrom source h.pos segments)).length + n) =
        (Token.reported source (h.pos.after (spell segments tail))
          (tokensFrom source h.pos segments)).map .ok ++ (Scanner.mk source l k done).scans n := by
  obtain ⟨m, k, last, hgives, hscan, hk, hp, hgiven⟩ :=
    Head.exists_gives_of_stop source hl hf hd (ByteStream.stopsAt_of_next ht)
  refine ⟨k, hk, hp, ?_⟩
  intro n
  have hnext : (Scanner.mk source l m done).scans (n + 1) = _ := scans_succ hscan n
  rw [← hgiven, List.length_append, List.length_singleton, Nat.add_assoc, Nat.add_comm 1,
    scans_of_gives hgives, hnext, List.map_append, List.append_assoc]
  rfl

end Scanner

/-- Tokens that stand after some characters are those of the start, counted from there. -/
theorem tokensFrom_ofText (source : String) (before : List Char) (segments : List Segment) :
    tokensFrom source (.ofText before) segments =
      (tokensFrom source .start segments).map (.rebase (.ofText before)) := by
  rw [← tokensFrom_rebase _ (Nat.le_refl _), Position.rebase_start]

/-- What shows of a text at an end report, wherever the text stands. -/
theorem reported_tokensFrom (hl : l.Sound) (source : String) (before : List Char) {p : List Char}
    {d : Segmentation} (hd : d.Cuts l p) :
    Token.reported source (.ofText (before ++ p)) (tokensFrom source (.ofText before) d.segments) =
      (d.tokens source).map (.rebase (.ofText before)) ++
        if (d.tokens source).getLast?.any (·.isOpenAt (.ofText p)) then []
        else [.final source (.ofText (before ++ p))] := by
  have hopen : (tokensFrom source (.ofText before) d.segments).getLast?.any
      (·.isOpenAt (.ofText (before ++ p))) =
        (d.tokens source).getLast?.any (·.isOpenAt (.ofText p)) := by
    rw [Position.ofText_append, Position.ofText_eq_after p, ← hd.spell_eq,
      any_isOpenAt_tokensFrom hl hd.fits, Segmentation.tokens, any_isOpenAt_tokensFrom hl hd.fits]
  rw [Token.reported, hopen, tokensFrom_ofText]
  rfl

theorem ByteStream.FeedsTexts.ne_nil {stream : ByteStream} {texts : List String}
    (h : stream.FeedsTexts texts) : texts ≠ [] := by
  cases h <;> exact List.cons_ne_nil _ _

/-- A text that is cut has the tokens of its segments and the end of input, which none of them is.
-/
theorem Segmentation.Cuts.scanText_eq (hl : l.Sound) (source : String) {p : String}
    {d : Segmentation} (hd : d.Cuts l p.toList) :
    l.scanText source p = .ok (d.tokens source ++ [Token.final source (.ofText p.toList)]) ∧
      ∀ t ∈ d.tokens source, t.kind ≠ .endOfInput := by
  rw [Position.ofText_eq_after]
  exact ⟨scanText_of_cuts hl source hd,
    fun t ht => kind_ne_endOfInput_of_mem_tokensFrom hl hd.fits ht⟩

/-- Scans of texts that come after `before`. -/
theorem exists_scans_of_feedsTexts (hl : l.Sound) (source : String) {stream : ByteStream}
    {texts : List String} (hs : stream.FeedsTexts texts) {before : List Char}
    (hh : h.Delivers [] stream) (hpos : h.pos = .ofText before) :
    ∃ parts : List (String × List Token), parts.map Prod.fst = texts ∧
      (∀ part ∈ parts, l.scanText source part.1 =
          .ok (part.2 ++ [Token.final source (.ofText part.1.toList)]) ∧
        ∀ t ∈ part.2, t.kind ≠ .endOfInput) ∧
      ∀ n, (Scanner.mk source l h false).scans ((Token.separated source before parts).length + n) =
        (Token.separated source before parts).map .ok ++ List.replicate n
          (.ok (.final source (.ofText (before ++ (String.join texts).toList)))) := by
  induction hs generalizing h before with
  | @last s rest p hfeed hrest =>
    obtain ⟨d, hd, -⟩ := existsUnique_cuts hl p.toList
    have hholds : h.Holds (spell d.segments d.tail) := by
      rw [hd.spell_eq]
      exact ⟨rest, Reader.delivers_of_nil hh (ByteStream.delivers_of_feeds hfeed), hrest⟩
    refine ⟨[(p, d.tokens source)], rfl, by simpa using hd.scanText_eq hl source, ?_⟩
    intro n
    have hgiven : Token.separated source before [(p, d.tokens source)] =
        tokensFrom source h.pos d.segments := by
      rw [hpos, tokensFrom_ofText]
      simp [Token.separated, Segmentation.tokens]
    rw [hgiven, Scanner.scans_of_holds source hl hd.fits hholds, hd.spell_eq, hpos,
      ← Position.ofText_append]
    simp
  | @cons s rest after p ps hfeed hnext htexts ih =>
    obtain ⟨d, hd, -⟩ := existsUnique_cuts hl p.toList
    have hdelivers : h.Delivers (spell d.segments d.tail) rest := by
      rw [hd.spell_eq]
      exact Reader.delivers_of_nil hh (ByteStream.delivers_of_feeds hfeed)
    have hend : h.pos.after (spell d.segments d.tail) = .ofText (before ++ p.toList) := by
      rw [hd.spell_eq, hpos, Position.ofText_append]
    obtain ⟨k, hk, hkpos, hscans⟩ :=
      Scanner.exists_scans_of_endReport source hl hd.fits hdelivers hnext false
    -- The report leaves nothing held back, so the other texts are scanned from where this one ends.
    obtain ⟨parts, hparts, hall, hrest⟩ := ih hk (hkpos.trans hend)
    refine ⟨(p, d.tokens source) :: parts, by rw [List.map_cons, hparts],
      List.forall_mem_cons.mpr ⟨hd.scanText_eq hl source, hall⟩, ?_⟩
    intro n
    have hmore : parts.isEmpty = false := by
      rw [List.isEmpty_eq_false_iff]
      rintro rfl
      exact htexts.ne_nil hparts.symm
    have hgiven : Token.separated source before ((p, d.tokens source) :: parts) =
        Token.reported source (h.pos.after (spell d.segments d.tail))
          (tokensFrom source h.pos d.segments) ++
            Token.separated source (before ++ p.toList) parts := by
      rw [hend, hpos, reported_tokensFrom hl source before hd, Token.separated, hmore,
        Bool.false_or]
    rw [hgiven, List.length_append, Nat.add_assoc, hscans, hrest, String.join_cons,
      String.toList_append, ← List.append_assoc before, List.map_append]
    exact (List.append_assoc _ _ _).symm

/-- The texts of a stream that reports its end between them keep their tokens, counted from where
each of them begins. Each report gives an end of input after the text before it, unless the last
token of that text is open there; and after the last text there is the end of input for ever. -/
theorem scans_of_feedsTexts (hl : l.Reachable) (source : String) {stream : ByteStream}
    {texts : List String} (hs : stream.FeedsTexts texts) :
    ∃ parts : List (String × List Token), parts.map Prod.fst = texts ∧
      (∀ part ∈ parts, l.scanText source part.1 =
          .ok (part.2 ++ [Token.final source (.ofText part.1.toList)]) ∧
        ∀ t ∈ part.2, t.kind ≠ .endOfInput) ∧
      ∀ n, (Scanner.ofStream source l stream).scans
          ((Token.separated source [] parts).length + n) =
        (Token.separated source [] parts).map .ok ++ List.replicate n
          (.ok (.final source (.ofText (String.join texts).toList))) := by
  have hstart : ({ reader := .ofStream stream } : Head).Delivers [] stream :=
    Reader.delivers_ofStream .nil
  exact exists_scans_of_feedsTexts hl.sound source hs hstart rfl

/-- The texts determine what tokens go with them. -/
theorem eq_of_map_fst_eq {parts others : List (String × List Token)}
    (h : parts.map Prod.fst = others.map Prod.fst)
    (hparts : ∀ part ∈ parts, l.scanText source part.1 =
      .ok (part.2 ++ [Token.final source (.ofText part.1.toList)]))
    (hothers : ∀ part ∈ others, l.scanText source part.1 =
      .ok (part.2 ++ [Token.final source (.ofText part.1.toList)])) : parts = others := by
  induction parts generalizing others with
  | nil => exact (List.map_eq_nil_iff.mp h.symm).symm
  | cons part parts ih =>
    obtain ⟨other, others, rfl, hfst, hrest⟩ := List.map_eq_cons_iff.mp h.symm
    rw [List.forall_mem_cons] at hparts hothers
    have hsame := hparts.1.symm.trans (hfst ▸ hothers.1)
    obtain ⟨hsnd, -⟩ := List.append_inj' (Except.ok.inj hsame) rfl
    rw [Prod.ext hfst.symm hsnd, ih hrest.symm hparts.2 hothers.2]

/-- A word that takes the report after it, digits that a space keeps from the next one, and a string
that is open at the end. -/
theorem scans_of_feedsTexts_word_digits_string : Lexicon.standard.Reachable ∧
    ByteStream.FeedsTexts [.bytes [97], .endReport, .bytes [48], .interrupted, .bytes [55, 32],
      .endReport, .bytes [34, 98]] ["a", "07 ", "\"b"] ∧
    ∀ n, (Scanner.ofStream "m" .standard [.bytes [97], .endReport, .bytes [48], .interrupted,
        .bytes [55, 32], .endReport, .bytes [34, 98]]).scans (4 + n) =
      [.ok ⟨"m", ⟨1, 0⟩, .identifier, "a"⟩, .ok ⟨"m", ⟨1, 1⟩, .integer, "07"⟩,
        .ok ⟨"m", ⟨1, 4⟩, .endOfInput, ""⟩, .ok ⟨"m", ⟨1, 4⟩, .illegal, "\"b"⟩] ++
          List.replicate n (.ok ⟨"m", ⟨1, 6⟩, .endOfInput, ""⟩) := by
  have hword : ByteStream.Feeds [.bytes [97], .endReport, .bytes [48], .interrupted,
      .bytes [55, 32], .endReport, .bytes [34, 98]] (Utf8.encode "a") [.bytes [], .endReport,
        .bytes [48], .interrupted, .bytes [55, 32], .endReport, .bytes [34, 98]] := by
    have hbytes : Utf8.encode "a" = [97] := by decide +kernel
    rw [hbytes]
    exact .cons rfl .nil
  have hdigits : ByteStream.Feeds [.bytes [48], .interrupted, .bytes [55, 32], .endReport,
      .bytes [34, 98]] (Utf8.encode "07 ") [.bytes [], .endReport, .bytes [34, 98]] := by
    have hbytes : Utf8.encode "07 " = [48, 55, 32] := by decide +kernel
    rw [hbytes]
    exact .cons rfl (.cons rfl (.cons rfl .nil))
  have hstring : ByteStream.Feeds [.bytes [34, 98]] (Utf8.encode "\"b") [.bytes []] := by
    have hbytes : Utf8.encode "\"b" = [34, 98] := by decide +kernel
    rw [hbytes]
    exact .cons rfl (.cons rfl .nil)
  have hfeeds : ByteStream.FeedsTexts _ ["a", "07 ", "\"b"] :=
    .cons hword rfl (.cons hdigits rfl (.last hstring (by simp [ByteStream.Silent])))
  obtain ⟨parts, hparts, hall, hscans⟩ := scans_of_feedsTexts .standard "m" hfeeds
  have hgiven : parts = [("a", [⟨"m", ⟨1, 0⟩, .identifier, "a"⟩]),
      ("07 ", [⟨"m", ⟨1, 0⟩, .integer, "07"⟩]), ("\"b", [⟨"m", ⟨1, 0⟩, .illegal, "\"b"⟩])] := by
    refine eq_of_map_fst_eq hparts (fun part hpart => (hall part hpart).1) ?_
    decide +kernel
  have htokens : Token.separated "m" [] parts = [⟨"m", ⟨1, 0⟩, .identifier, "a"⟩,
      ⟨"m", ⟨1, 1⟩, .integer, "07"⟩, ⟨"m", ⟨1, 4⟩, .endOfInput, ""⟩,
      ⟨"m", ⟨1, 4⟩, .illegal, "\"b"⟩] := by
    rw [hgiven]
    decide +kernel
  have hend : Position.ofText (String.join ["a", "07 ", "\"b"]).toList = ⟨1, 6⟩ := by
    decide +kernel
  rw [htokens, hend] at hscans
  exact ⟨.standard, hfeeds, hscans⟩

end LuScan
