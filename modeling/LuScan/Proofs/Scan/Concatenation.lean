import LuScan.Proofs.Grammar.Concatenation
import LuScan.Proofs.Scan.Tokens

/-!
Scans of texts one after the other. Unless the last token of the first text goes on, the tokens are
its tokens and then those of the second text, counted from where the first one ends.
-/
namespace LuScan

namespace Token

/-- The token is a string that is not closed. -/
def isUnclosed (t : Token) : Bool := t.kind.isUnclosed t.literal.toList

/-- The place after the token. -/
def stop (t : Token) : Position := t.pos.after t.sourceText.toList

/-- The token of a text that ends at `e` does not go on into `after`. -/
structure StopsBefore (t : Token) (e : Position) (after : List Char) : Prop where
  closed : t.isUnclosed = false
  integer : t.stop = e → t.kind = .integer → Ends isDigit after
  word : t.stop = e → t.kind.isWord = true → Ends isWordPart after

/-- The token of a text that itself begins at `e`. -/
def rebase (e : Position) (t : Token) : Token := { t with pos := .rebase e t.pos }

end Token

variable {l : Lexicon} {source : String}

namespace Segment

variable {s : Segment} {rest : List Char} {p : Position}

theorem toList_sourceText_token (hl : l.Sound) (hx : Lexeme l s.lexeme s.kind rest) :
    (s.token source p).sourceText.toList = s.lexeme := by
  by_cases hk : s.kind = .newline
  · have hlex := (hx.kind_eq_newline_iff hl).mp hk
    rw [Token.sourceText_of_newline hk, hlex]
    rfl
  · rw [Token.sourceText_of_ne hk]
    simp [token, literal, Kind.literal_of_ne hk]

theorem isUnclosed_token : (s.token source p).isUnclosed = s.kind.isUnclosed s.lexeme := by
  by_cases hk : s.kind = .newline
  · have hne : (Kind.newline == Kind.illegal) = false := rfl
    simp [Token.isUnclosed, Kind.isUnclosed, token, hk, hne]
  · simp [Token.isUnclosed, token, literal, Kind.literal_of_ne hk]

theorem stop_token (hl : l.Sound) (hx : Lexeme l s.lexeme s.kind rest) :
    (s.token source p).stop = p.after s.chars := by
  rw [Token.stop, toList_sourceText_token hl hx, chars, Position.after_append]
  rfl

end Segment

theorem tokensFrom_append (p : Position) (xs ys : List Segment) :
    tokensFrom source p (xs ++ ys) =
      tokensFrom source p xs ++ tokensFrom source (p.after (spell xs [])) ys := by
  induction xs generalizing p with
  | nil => rfl
  | cons x xs ih => simp [tokensFrom, ih, Segment.chars]

theorem dropLast_tokensFrom (p : Position) (segments : List Segment) :
    (tokensFrom source p segments).dropLast = tokensFrom source p segments.dropLast := by
  rcases List.eq_nil_or_concat segments with rfl | ⟨init, s, rfl⟩
  · rfl
  · simp [tokensFrom_append, tokensFrom]

/-- Tokens that are counted from elsewhere. -/
theorem tokensFrom_rebase (e : Position) {p : Position} (hp : 1 ≤ p.line)
    (segments : List Segment) : tokensFrom source (.rebase e p) segments =
      (tokensFrom source p segments).map (Token.rebase e) := by
  induction segments generalizing p with
  | nil => rfl
  | cons s segments ih =>
    have hq : 1 ≤ (p.after s.chars).line := Nat.le_trans hp (p.line_le_after s.chars)
    rw [tokensFrom, tokensFrom, ← Position.rebase_after e _ hp, ih hq, List.map_cons,
      Segment.token, ← Position.rebase_after e _ hp]
    rfl

/-- The last token comes from the last segment and stops where the segments do. -/
theorem exists_getLast?_tokensFrom (hl : l.Sound) {after : List Char} {segments : List Segment}
    (hf : FitsBefore l after segments) (source : String) (p : Position) {s : Segment}
    (hs : s ∈ segments.getLast?) : ∃ t ∈ (tokensFrom source p segments).getLast?,
      t.kind = s.kind ∧ t.isUnclosed = s.kind.isUnclosed s.lexeme ∧
        t.stop = p.after (spell segments []) := by
  induction segments generalizing p with
  | nil => cases hs
  | cons g segments ih =>
    obtain ⟨-, hx, hf⟩ := hf
    cases segments with
    | nil =>
      obtain rfl : g = s := by simpa using hs
      refine ⟨g.token source p, rfl, rfl, Segment.isUnclosed_token, ?_⟩
      rw [Segment.stop_token hl hx]
      simp [Segment.chars]
    | cons h segments =>
      rw [List.getLast?_cons_cons] at hs
      obtain ⟨t, ht, hkind, hunclosed, hstop⟩ := ih hf (p.after g.chars) hs
      refine ⟨t, ?_, hkind, hunclosed, ?_⟩
      · rw [tokensFrom, tokensFrom, List.getLast?_cons_cons]
        exact ht
      · rw [hstop, spell_cons g]
        simp [Segment.chars]

/-- What the last token says about the seam is true of the last lexeme. -/
theorem Segmentation.Cuts.stopsBefore (hl : l.Sound) {d : Segmentation} {p q : List Char}
    (hd : d.Cuts l p) (hlast : ∀ t ∈ (d.tokens source).getLast?,
      t.StopsBefore (Position.start.after p) q) :
    ∀ s ∈ d.segments.getLast?, s.StopsBefore (d.tail ++ q) := by
  intro s hs
  obtain ⟨hf, hgap⟩ := fits_iff_fitsBefore.mp hd.fits
  obtain ⟨t, ht, hkind, hunclosed, hstop⟩ := exists_getLast?_tokensFrom hl hf source .start hs
  obtain ⟨hclosed, hinteger, hword⟩ := hlast t ht
  rw [hkind] at hinteger hword
  rw [← hd.spell_eq, spell_eq_append, Position.after_append, ← hstop] at hinteger hword
  constructor
  · rw [← hunclosed]
    exact hclosed
  · intro hk
    refine .gap_append (fun c => isDigit_eq_false_of_isGap) hgap fun htail => hinteger ?_ hk
    rw [htail, Position.after_nil]
  · intro hk
    refine .gap_append (fun c => isWordPart_eq_false_of_isGap) hgap fun htail => hword ?_ hk
    rw [htail, Position.after_nil]

/-- The tokens of two texts, where the last lexeme of the first does not go on. -/
theorem scanText_append_of_cuts (hl : l.Sound) {p q : String} {d d' : Segmentation}
    (hd : d.Cuts l p.toList) (hd' : d'.Cuts l q.toList)
    (hseam : ∀ s ∈ d.segments.getLast?, s.StopsBefore (d.tail ++ q.toList)) :
    l.scanText source (p ++ q) = .ok (d.tokens source ++
      (d'.tokens source ++ [Token.final source (Position.start.after q.toList)]).map
        (Token.rebase (Position.start.after p.toList))) := by
  have hcut := hd.append hl hd' hseam
  rw [← String.toList_append] at hcut
  have hfinal : Token.rebase (Position.start.after p.toList)
      (Token.final source (Position.start.after q.toList)) =
        Token.final source (Position.start.after (p ++ q).toList) := by
    rw [Token.rebase, Token.final, Position.rebase_after _ _ (Nat.le_refl _),
      Position.rebase_start, String.toList_append, Position.after_append]
    rfl
  have htokens : (d.append d').tokens source = d.tokens source ++
      (d'.tokens source).map (Token.rebase (Position.start.after p.toList)) := by
    rw [Segmentation.tokens, Segmentation.append, tokensFrom_append,
      Segmentation.tokensFrom_prependGap, ← Position.after_append, ← spell_eq_append,
      hd.spell_eq, Segmentation.tokens, Segmentation.tokens,
      ← tokensFrom_rebase _ (Nat.le_refl _), Position.rebase_start]
  rw [scanText_of_cuts hl source hcut, htokens, List.map_append, List.map_cons, List.map_nil,
    hfinal, List.append_assoc]

/-- Of two texts in a row, the first keeps all its tokens but the last. It keeps the last one too,
and the tokens of the second text follow, unless that token goes on; at the end of a line that no
string holds it never does. -/
theorem scanText_append (hl : l.Reachable) (source p q : String) :
    ∃ (ts us : List Token) (e : Position),
      l.scanText source p = .ok (ts ++ [Token.final source e]) ∧
      l.scanText source q = .ok us ∧
      (∃ vs, l.scanText source (p ++ q) = .ok (ts.dropLast ++ vs)) ∧
      ((∀ t ∈ ts.getLast?, t.StopsBefore e q.toList) →
        l.scanText source (p ++ q) = .ok (ts ++ us.map (Token.rebase e))) ∧
      ((∃ r, p = r ++ "\n" ∧ ¬ l.InString (p ++ q).toList r.length) →
        l.scanText source (p ++ q) = .ok (ts ++ us.map (Token.rebase e))) := by
  obtain ⟨d, hd, -⟩ := existsUnique_cuts hl.sound p.toList
  obtain ⟨d', hd', -⟩ := existsUnique_cuts hl.sound q.toList
  refine ⟨_, _, _, scanText_of_cuts hl.sound source hd, scanText_of_cuts hl.sound source hd',
    ?_, ?_, ?_⟩
  · obtain ⟨c, hc, segments, hsegments⟩ := hd.exists_append hl.sound q.toList
    rw [← String.toList_append] at hc
    rw [scanText_of_cuts hl.sound source hc, Segmentation.tokens, ← hsegments, tokensFrom_append,
      List.append_assoc, Segmentation.tokens, dropLast_tokensFrom]
    exact ⟨_, rfl⟩
  · intro hlast
    exact scanText_append_of_cuts hl.sound hd hd' (hd.stopsBefore hl.sound hlast)
  · rintro ⟨r, rfl, hr⟩
    rw [String.toList_append] at hd
    have hinside : insideAfter false r.toList = false := by
      refine insideAfter_of_not_inString (q := q.toList) hl.sound (c := '\n') (by decide) ?_
      simpa [String.length_toList] using hr
    apply scanText_append_of_cuts hl.sound (by rwa [String.toList_append]) hd'
    intro s hs
    exact Segment.stopsBefore_of_newline (hd.kind_eq_newline hl.sound hinside s hs) _

/-- A word may follow digits directly. -/
theorem scanText_word_after_digits : Lexicon.standard.Reachable ∧
    Lexicon.standard.scanText "m" ("07" ++ "x") = .ok [⟨"m", ⟨1, 0⟩, .integer, "07"⟩,
      ⟨"m", ⟨1, 2⟩, .identifier, "x"⟩, ⟨"m", ⟨1, 3⟩, .endOfInput, ""⟩] := by
  have hsound := Lexicon.Reachable.standard.sound
  have hp : Lexicon.standard.scanText "m" "07" =
      .ok ([⟨"m", ⟨1, 0⟩, .integer, "07"⟩] ++ [Token.final "m" ⟨1, 2⟩]) := by
    refine scanText_of_cuts (d := ⟨[⟨[], ['0', '7'], .integer⟩], []⟩) hsound "m"
      ⟨by decide +kernel, by simp, .integer ?_ (List.all_eq_true.mp ?_) ?_, by simp [Fits]⟩
    all_goals decide +kernel
  have hq : Lexicon.standard.scanText "m" "x" =
      .ok [⟨"m", ⟨1, 0⟩, .identifier, "x"⟩, Token.final "m" ⟨1, 1⟩] := by
    refine scanText_of_cuts (d := ⟨[⟨[], ['x'], .identifier⟩], []⟩) hsound "m"
      ⟨by decide +kernel, by simp, .word ?_ (List.all_eq_true.mp ?_) ?_, by simp [Fits]⟩
    all_goals decide +kernel
  obtain ⟨ts, us, e, hts, hus, -, hjoin, -⟩ := scanText_append .standard "m" "07" "x"
  obtain ⟨rfl, he⟩ := List.append_inj' (Except.ok.inj (hp.symm.trans hts)) rfl
  obtain rfl := Except.ok.inj (hq.symm.trans hus)
  obtain rfl : ⟨1, 2⟩ = e := by simpa [Token.final] using he
  refine ⟨.standard, (hjoin fun t ht => ?_).trans rfl⟩
  cases ht
  constructor
  · decide
  · intro _ _
    decide +kernel
  · intro _ hk
    exact absurd hk (by decide)

end LuScan
