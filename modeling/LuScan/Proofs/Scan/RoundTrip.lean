import LuScan.Proofs.Grammar.Strip
import LuScan.Proofs.Scan.Concatenation

/-!
From the tokens of a text back to the text. Together they cover the text without the gaps outside of
its strings, whatever the lexicon.
-/
namespace LuScan

variable {l : Lexicon} {source : String} {tail : List Char} {segments : List Segment}

theorem Token.joined_append (ts us : List Token) : joined (ts ++ us) = joined ts ++ joined us := by
  apply String.toList_injective
  simp [joined, String.toList_join]

theorem toList_joined_tokensFrom (hl : l.Sound) (hf : Fits l tail segments) (p : Position) :
    (Token.joined (tokensFrom source p segments)).toList = segments.flatMap Segment.lexeme := by
  rw [Token.joined, String.toList_join]
  induction segments generalizing p with
  | nil => rfl
  | cons s segments ih =>
    obtain ⟨-, hx, hf⟩ := hf
    have htext : (s.token source p).sourceText.toList = s.lexeme :=
      Segment.toList_sourceText_token hl hx
    rw [tokensFrom, List.map_cons, List.flatMap_cons, List.flatMap_cons, htext, ih hf]

/-- Each token comes from a segment and stands where the gap of that segment ends. -/
theorem exists_of_mem_tokensFrom {p : Position} {t : Token}
    (ht : t ∈ tokensFrom source p segments) : ∃ init s rest, segments = init ++ s :: rest ∧
      t = s.token source (p.after (spell init [])) := by
  induction segments generalizing p with
  | nil => cases ht
  | cons s segments ih =>
    rcases List.mem_cons.mp ht with rfl | ht
    · exact ⟨[], s, segments, rfl, rfl⟩
    · obtain ⟨init, u, rest, rfl, rfl⟩ := ih ht
      refine ⟨s :: init, u, rest, rfl, ?_⟩
      rw [spell_cons, ← List.append_assoc, Position.after_append]
      rfl

/-- A string that is not closed covers the rest of its text. -/
theorem exists_prefix_of_isUnclosed (hl : l.Sound) {d : Segmentation} {text : List Char}
    (hd : d.Cuts l text) {t : Token} (ht : t ∈ d.tokens source) (hu : t.isUnclosed = true) :
    ∃ before, text = before ++ t.sourceText.toList ∧ t.pos = .ofText before := by
  obtain ⟨init, s, rest, hsegments, rfl⟩ := exists_of_mem_tokensFrom ht
  have hfits := hd.fits
  rw [hsegments] at hfits
  obtain ⟨-, hg, hx, -⟩ := fits_append_iff.mp hfits
  rw [Segment.isUnclosed_token] at hu
  have hnil := hx.eq_nil_of_isUnclosed hl hu
  refine ⟨spell init [] ++ s.gap, ?_, ?_⟩
  · rw [Segment.toList_sourceText_token hl hx, ← hd.spell_eq, hsegments, spell_append, spell_cons,
      hnil, spell_eq_append init (s.gap ++ _)]
    simp
  · have hstart : Position.start = .ofText [] := rfl
    rw [Segment.token, hstart, ← Position.ofText_append, ← Position.ofText_append, List.nil_append]

/-- The token at the end covers nothing. -/
theorem joined_tokens_final (hl : l.Sound) {d : Segmentation} {text : List Char}
    (hd : d.Cuts l text) (source : String) (p : Position) :
    Token.joined (d.tokens source ++ [Token.final source p]) =
      String.ofList (strip false text) := by
  apply String.toList_injective
  have hfinal : (Token.final source p).sourceText = "" := rfl
  rw [Token.joined_append, String.toList_append, Segmentation.tokens,
    toList_joined_tokensFrom hl hd.fits, String.toList_ofList, ← hd.spell_eq,
    strip_spell hl hd.fits]
  simp [Token.joined, hfinal]

/-- The characters that the tokens of a text cover are the text without the gaps outside of strings.
They are the same under every lexicon, and a string that is not closed covers the rest of the text.
-/
theorem joined_eq_strip (hl : l.Reachable) (source text : String) :
    ∃ ts, l.scanText source text = .ok ts ∧
      Token.joined ts = String.ofList (strip false text.toList) ∧
      (∀ m : Lexicon, m.Reachable →
        ∃ us, m.scanText source text = .ok us ∧ Token.joined us = Token.joined ts) ∧
      ∀ t ∈ ts, t.isUnclosed = true →
        ∃ before, text.toList = before ++ t.sourceText.toList ∧ t.pos = .ofText before := by
  obtain ⟨d, hd, -⟩ := existsUnique_cuts hl.sound text.toList
  have hjoined := joined_tokens_final hl.sound hd source
  refine ⟨_, scanText_of_cuts hl.sound source hd, hjoined _, ?_, ?_⟩
  · intro m hm
    obtain ⟨d', hd', -⟩ := existsUnique_cuts hm.sound text.toList
    refine ⟨_, scanText_of_cuts hm.sound source hd', ?_⟩
    rw [joined_tokens_final hm.sound hd' source, hjoined]
  · intro t ht hu
    rcases List.mem_append.mp ht with ht | ht
    · exact exists_prefix_of_isUnclosed hl.sound hd ht hu
    · rw [List.mem_singleton] at ht
      subst ht
      cases hu

/-- Without symbols the semicolon is stray and covers itself all the same; the blank before it goes,
and the one in the open string stays. -/
theorem joined_of_open_text : Lexicon.standard.Reachable ∧ Lexicon.empty.Reachable ∧
    Lexicon.standard.scanText "m" "a ;\" b" = .ok [⟨"m", ⟨1, 0⟩, .identifier, "a"⟩,
      ⟨"m", ⟨1, 2⟩, .semicolon, ";"⟩, ⟨"m", ⟨1, 3⟩, .illegal, "\" b"⟩, .final "m" ⟨1, 6⟩] ∧
    (∃ us, Lexicon.empty.scanText "m" "a ;\" b" = .ok us ∧ Token.joined us = "a;\" b") ∧
    ∃ before, "a ;\" b".toList = before ++ ("\" b").toList ∧ ⟨1, 3⟩ = Position.ofText before := by
  have htext : Lexicon.standard.scanText "m" "a ;\" b" = .ok [⟨"m", ⟨1, 0⟩, .identifier, "a"⟩,
      ⟨"m", ⟨1, 2⟩, .semicolon, ";"⟩, ⟨"m", ⟨1, 3⟩, .illegal, "\" b"⟩, .final "m" ⟨1, 6⟩] := by
    decide +kernel
  have hstrip : String.ofList (strip false "a ;\" b".toList) = "a;\" b" := by decide +kernel
  obtain ⟨ts, hts, hjoined, hany, hopen⟩ := joined_eq_strip .standard "m" "a ;\" b"
  obtain rfl := Except.ok.inj (htext.symm.trans hts)
  obtain ⟨us, hus, hsame⟩ := hany .empty .empty
  refine ⟨.standard, .empty, htext, ⟨us, hus, hsame.trans (hjoined.trans hstrip)⟩, ?_⟩
  exact hopen ⟨"m", ⟨1, 3⟩, .illegal, "\" b"⟩ (by decide) (by decide +kernel)

end LuScan
