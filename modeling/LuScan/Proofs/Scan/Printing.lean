import LuScan.Proofs.Grammar.Spacing
import LuScan.Proofs.Scan.Concatenation

/-!
Tokens printed with gaps of any kind between them and scanned again. The same kinds and literals
come back unless two tokens that join are printed without a gap.
-/
namespace LuScan

namespace Token

/-- The characters that the tokens cover, with a gap before each of them and one at the end. -/
def spaced (gap : Nat → String) : List Token → String
  | [] => gap 0
  | t :: ts => gap 0 ++ (t.sourceText ++ spaced (fun i => gap (i + 1)) ts)

/-- What a token says when its source and its place are left out. -/
def content (t : Token) : Kind × String := (t.kind, t.literal)

end Token

variable {l : Lexicon} {tail : List Char} {segments : List Segment}

theorem map_content_tokensFrom (source : String) (p : Position) (segments : List Segment) :
    (tokensFrom source p segments).map Token.content = segments.map Segment.content := by
  induction segments generalizing p with
  | nil => rfl
  | cons s segments ih =>
    rw [tokensFrom, List.map_cons, List.map_cons, ih]
    rfl

theorem length_tokensFrom (source : String) (p : Position) (segments : List Segment) :
    (tokensFrom source p segments).length = segments.length := by
  have hlen := congrArg List.length (map_content_tokensFrom source p segments)
  rwa [List.length_map, List.length_map] at hlen

theorem map_kind_tokensFrom (source : String) (p : Position) (segments : List Segment) :
    (tokensFrom source p segments).map Token.kind = segments.map Segment.kind := by
  have hkinds := congrArg (List.map Prod.fst) (map_content_tokensFrom source p segments)
  rwa [List.map_map, List.map_map] at hkinds

theorem toList_spaced_tokensFrom (hl : l.Sound) (hf : Fits l tail segments) (source : String)
    (p : Position) (gap : Nat → String) :
    (Token.spaced gap (tokensFrom source p segments)).toList =
      spell (respace (fun i => (gap i).toList) segments) (gap segments.length).toList := by
  induction segments generalizing p gap with
  | nil => rfl
  | cons s segments ih =>
    obtain ⟨-, hx, hf⟩ := hf
    rw [tokensFrom, Token.spaced, String.toList_append, String.toList_append,
      Segment.toList_sourceText_token hl hx, ih hf, respace, spell_cons]
    rfl

theorem apart_iff_of_tokens {gap : Nat → String} {ts : List Token} :
    Apart (fun i => (gap i).toList) (ts.map Token.kind) ↔
      ∀ (i : Nat) (t u : Token), ts[i]? = some t → ts[i + 1]? = some u →
        t.kind.joins u.kind = true → gap (i + 1) ≠ "" := by
  constructor
  · intro h i t u ht hu hjoins hnil
    have hk : (ts.map Token.kind)[i]? = some t.kind := by
      rw [List.getElem?_map, ht, Option.map_some]
    have hj : (ts.map Token.kind)[i + 1]? = some u.kind := by
      rw [List.getElem?_map, hu, Option.map_some]
    exact h i t.kind u.kind hk hj hjoins (String.toList_eq_nil_iff.mpr hnil)
  · intro h i k j hk hj hjoins hnil
    rw [List.getElem?_map, Option.map_eq_some_iff] at hk hj
    obtain ⟨t, ht, rfl⟩ := hk
    obtain ⟨u, hu, rfl⟩ := hj
    exact h i t u ht hu hjoins (String.toList_eq_nil_iff.mp hnil)

/-- The tokens of a text, printed with any gaps, are scanned again with their kinds and literals
exactly when any two neighbours that join have a gap between them. No gap may come after a string
that is not closed. -/
theorem scanText_spaced_iff (hl : l.Reachable) (source text : String) :
    ∃ (ts : List Token) (e : Position),
      l.scanText source text = .ok (ts ++ [Token.final source e]) ∧
      (∀ t ∈ ts, t.kind ≠ .endOfInput) ∧
      ∀ gap : Nat → String, (∀ i ≤ ts.length, ∀ c ∈ (gap i).toList, isGap c = true) →
        (∀ t ∈ ts.getLast?, t.isUnclosed = true → gap ts.length = "") →
        ∃ (us : List Token) (e' : Position),
          l.scanText source (Token.spaced gap ts) = .ok (us ++ [Token.final source e']) ∧
          (∀ u ∈ us, u.kind ≠ .endOfInput) ∧
          (us.map Token.content = ts.map Token.content ↔
            ∀ (i : Nat) (t u : Token), ts[i]? = some t → ts[i + 1]? = some u →
              t.kind.joins u.kind = true → gap (i + 1) ≠ "") := by
  obtain ⟨d, hd, -⟩ := existsUnique_cuts hl.sound text.toList
  have hf := hd.fits
  refine ⟨_, _, scanText_of_cuts hl.sound source hd,
    fun t => kind_ne_endOfInput_of_mem_tokensFrom hl.sound hf, fun gap hgap hlast => ?_⟩
  rw [Segmentation.tokens] at hgap hlast ⊢
  rw [length_tokensFrom] at hgap hlast
  have hclosed : ∀ s ∈ d.segments.getLast?, s.kind.isUnclosed s.lexeme = true →
      (gap d.segments.length).toList = [] := by
    intro s hs hu
    obtain ⟨hbefore, -⟩ := fits_iff_fitsBefore.mp hf
    obtain ⟨t, ht, -, hunclosed, -⟩ :=
      exists_getLast?_tokensFrom hl.sound hbefore source .start hs
    rw [hlast t ht (hunclosed.trans hu), String.toList_empty]
  obtain ⟨d', hd', -⟩ := existsUnique_cuts hl.sound
    (Token.spaced gap (tokensFrom source .start d.segments)).toList
  refine ⟨_, _, scanText_of_cuts hl.sound source hd',
    fun u => kind_ne_endOfInput_of_mem_tokensFrom hl.sound hd'.fits, ?_⟩
  rw [toList_spaced_tokensFrom hl.sound hf] at hd'
  rw [← apart_iff_of_tokens, map_kind_tokensFrom, Segmentation.tokens, map_content_tokensFrom,
    map_content_tokensFrom]
  exact map_content_eq_iff_apart hl.sound hf hgap hclosed hd'

/-- The digits may stand right before the second word, but not right after the first. -/
theorem scanText_spaced_digits : Lexicon.standard.Reachable ∧
    Lexicon.standard.scanText "m" "x 07 y" = .ok ([⟨"m", ⟨1, 0⟩, .identifier, "x"⟩,
      ⟨"m", ⟨1, 2⟩, .integer, "07"⟩, ⟨"m", ⟨1, 5⟩, .identifier, "y"⟩] ++
        [Token.final "m" ⟨1, 6⟩]) ∧
    (∃ (us : List Token) (e : Position),
      Lexicon.standard.scanText "m" "x 07y" = .ok (us ++ [Token.final "m" e]) ∧
      us.map Token.content = [(.identifier, "x"), (.integer, "07"), (.identifier, "y")]) ∧
    ∃ (us : List Token) (e : Position),
      Lexicon.standard.scanText "m" "x07y" = .ok (us ++ [Token.final "m" e]) ∧
      us.map Token.content ≠ [(.identifier, "x"), (.integer, "07"), (.identifier, "y")] := by
  have htext : Lexicon.standard.scanText "m" "x 07 y" = .ok ([⟨"m", ⟨1, 0⟩, .identifier, "x"⟩,
      ⟨"m", ⟨1, 2⟩, .integer, "07"⟩, ⟨"m", ⟨1, 5⟩, .identifier, "y"⟩] ++
        [Token.final "m" ⟨1, 6⟩]) := by decide +kernel
  obtain ⟨ts, e, hts, -, hspaced⟩ := scanText_spaced_iff .standard "m" "x 07 y"
  obtain ⟨rfl, -⟩ := List.append_inj' (Except.ok.inj (htext.symm.trans hts)) rfl
  refine ⟨.standard, htext, ?_, ?_⟩
  · have hgap (i : Nat) : ∀ c ∈ (if i = 1 then " " else "").toList, isGap c = true := by
      split
      · exact List.all_eq_true.mp (by decide +kernel)
      · simp
    obtain ⟨us, e', hus, -, hiff⟩ := hspaced (fun i => if i = 1 then " " else "")
      (fun i _ => hgap i) (by decide +kernel)
    refine ⟨us, e', hus, hiff.mpr fun i t u ht hu hjoins => ?_⟩
    rcases i with _ | _ | i
    · decide
    · obtain rfl := Option.some.inj ht
      obtain rfl := Option.some.inj hu
      exact absurd hjoins (by decide)
    · simp at hu
  · obtain ⟨us, e', hus, -, hiff⟩ := hspaced (fun _ => "") (by simp) (by decide +kernel)
    refine ⟨us, e', hus, fun hsame => ?_⟩
    exact hiff.mp hsame 0 _ _ rfl rfl (by decide) rfl

end LuScan
