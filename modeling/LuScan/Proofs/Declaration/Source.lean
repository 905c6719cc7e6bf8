import LuScan.Proofs.Declaration.Verdict
import LuScan.Proofs.Grammar.Words
import LuScan.Proofs.Scan.Printing

/-!
Texts that are scanned and checked. Which words a text has decides whether it passes, and an error
can be seen among its tokens.
-/
namespace LuScan

variable {l : Lexicon} {tail : List Char} {segments : List Segment}

/-- Each token stands after all before it, and before whatever comes after them. -/
theorem pairwise_tokensFrom (hl : l.Sound) (hf : Fits l tail segments) (source : String)
    (p : Position) :
    (tokensFrom source p segments ++ [Token.final source (p.after (spell segments tail))]).Pairwise
      (fun t u => t.pos < u.pos) ∧
    ∀ t ∈ tokensFrom source p segments ++ [Token.final source (p.after (spell segments tail))],
      p ≤ t.pos := by
  induction segments generalizing p with
  | nil => simp [tokensFrom, Token.final, Position.le_after]
  | cons s segments ih =>
    obtain ⟨-, hx, hf⟩ := hf
    obtain ⟨hpairwise, hle⟩ := ih hf (p.after s.chars)
    have hpos : (s.token source p).pos < p.after s.chars := by
      rw [Segment.chars, Position.after_append]
      exact Position.lt_after _ (hx.ne_nil hl)
    rw [tokensFrom, spell_cons, ← List.append_assoc, ← Segment.chars, Position.after_append,
      List.cons_append, List.pairwise_cons, List.forall_mem_cons]
    refine ⟨⟨fun u hu => hpos.trans_le (hle u hu), hpairwise⟩, Position.le_after p s.gap, ?_⟩
    exact fun u hu => (Position.le_after p s.chars).trans (hle u hu)

namespace DeclType

/-- The names of the types are the words that the standard lexicon has for them. -/
theorem wordKind_eq_keyword_iff {w : String} {type : DeclType} :
    Lexicon.standard.wordKind w = type.keyword ↔ w = type.name := by
  constructor
  · intro h
    have hall : ∀ e ∈ Lexicon.standard.controls ++ Lexicon.standard.types,
        ∀ type ∈ [int, string, boolean], e.2 = type.keyword → e.1 = type.name := by
      decide +kernel
    have htype : type ∈ [int, string, boolean] := by cases type <;> decide
    rw [Lexicon.wordKind] at h
    cases hw : Lexicon.standard.keyword? w with
    | none =>
      rw [hw] at h
      cases type <;> cases h
    | some k =>
      rw [hw] at h
      refine hall (w, k) (List.mem_append.mpr ?_) type htype h
      rcases Option.or_eq_some_iff.mp hw with hc | ⟨-, ht⟩
      · exact .inl (Lexicon.mem_of_lookup hc)
      · exact .inr (Lexicon.mem_of_lookup ht)
  · rintro rfl
    cases type <;> decide +kernel

theorem wordKind_notMem_typeKinds_iff {w : String} :
    Lexicon.standard.wordKind w ∉ typeKinds ↔ w ≠ "int" ∧ w ≠ "string" ∧ w ≠ "boolean" := by
  have hkeywords : typeKinds = [int.keyword, string.keyword, boolean.keyword] := rfl
  simp only [hkeywords, List.mem_cons, List.not_mem_nil, or_false, not_or, wordKind_eq_keyword_iff]
  rfl

end DeclType

/-- No type is declared among the tokens of a text unless one of its words is the name of a type. -/
theorem forall_kind_notMem_typeKinds_iff (hf : Fits Lexicon.standard tail segments)
    (source : String) (p : Position) :
    (∀ t ∈ tokensFrom source p segments, t.kind ∉ typeKinds) ↔
      ∀ w ∈ Pass.words .outside (spell segments tail),
        w ≠ "int" ∧ w ≠ "string" ∧ w ≠ "boolean" := by
  have hword (k : Kind) : (k.isWord = true → k ∉ typeKinds) ↔ k ∉ typeKinds := by
    cases k <;> decide
  calc (∀ t ∈ tokensFrom source p segments, t.kind ∉ typeKinds)
    _ ↔ ∀ k ∈ segments.map Segment.kind, k ∉ typeKinds := by
      rw [← map_kind_tokensFrom source p, List.forall_mem_map]
    _ ↔ ∀ k ∈ (segments.map Segment.kind).filter Kind.isWord, k ∉ typeKinds := by
      simp only [List.forall_mem_filter, hword]
    _ ↔ ∀ w ∈ Pass.words .outside (spell segments tail),
        Lexicon.standard.wordKind w ∉ typeKinds := by
      rw [← map_wordKind_words Lexicon.sound_standard hf, List.forall_mem_map]
    _ ↔ _ := by simp only [DeclType.wordKind_notMem_typeKinds_iff]

/-- The tokens of a text, as a check finds them. -/
theorem exists_closed_scanText (source text : String) :
    ∃ tokens : List Token, scanText source text = .ok tokens ∧ Declaration.Closed tokens ∧
      tokens.Pairwise (fun t u => t.pos < u.pos) ∧
      (checkTokens tokens = .ok () ↔ ∀ w ∈ Pass.words .outside text.toList,
        w ≠ "int" ∧ w ≠ "string" ∧ w ≠ "boolean") := by
  have hl := Lexicon.sound_standard
  obtain ⟨d, hd, -⟩ := existsUnique_cuts hl text.toList
  refine ⟨_, scanText_of_cuts hl source hd, ?_, ?_, ?_⟩
  · exact ⟨Token.final source (Position.start.after text.toList), by simp, rfl⟩
  · rw [← hd.spell_eq]
    exact (pairwise_tokensFrom hl hd.fits source .start).1
  · rw [checkTokens_eq_ok_iff, List.forall_mem_append, Segmentation.tokens,
      forall_kind_notMem_typeKinds_iff hd.fits, hd.spell_eq]
    exact and_iff_left (by simp [Token.final, typeKinds])

theorem checkText_of_scanText {source text : String} {tokens : List Token}
    (h : scanText source text = .ok tokens) :
    checkText source text = (checkTokens tokens).mapError .check := by
  unfold scanText at h
  rw [checkText, Scanner.check, h]

/-- A text passes the check unless one of its words is the name of a type. Otherwise there is an
error of the check, never one of the scan, and it can be seen among the tokens of the text, no two
of which stand in one place. -/
theorem checkText_verdict (source text : String) :
    ∃ tokens : List Token, scanText source text = .ok tokens ∧
      tokens.Pairwise (fun t u => t.pos < u.pos) ∧
      (checkText source text = .ok () ↔ ∀ w ∈ Pass.words .outside text.toList,
        w ≠ "int" ∧ w ≠ "string" ∧ w ≠ "boolean") ∧
      ∀ f : Failure, checkText source text = .error f →
        ∃ e : CheckError, f = .check e ∧ e.SeenIn tokens := by
  obtain ⟨tokens, hscan, hclosed, hpairwise, hok⟩ := exists_closed_scanText source text
  refine ⟨tokens, hscan, hpairwise, ?_, fun f hf => ?_⟩
  · rw [checkText_of_scanText hscan, ← hok]
    cases checkTokens tokens <;> simp [Except.mapError]
  · rw [checkText_of_scanText hscan] at hf
    cases hverdict : checkTokens tokens with
    | ok => simp [hverdict, Except.mapError] at hf
    | error e =>
      rw [hverdict] at hf
      exact ⟨e, (Except.error.inj hf).symm, Declaration.verdict_seenIn hclosed hverdict⟩

/-- The sign is passed, and what is found after it is no integer. -/
example : checkText "m" "5int x = -y" =
    .error (.check ⟨.typeMismatch .int .identifier, ⟨1, 10⟩⟩) := by decide +kernel

end LuScan
