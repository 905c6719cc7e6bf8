import LuScan.Proofs.Grammar.Strings
import LuScan.Proofs.Scan.Tokens

/-!
What the tokens of a text keep of it. Two texts have the same tokens exactly when they differ in
nothing but which white space stands in a gap.
-/
namespace LuScan

/-- Characters that agree one by one, except that a gap may be another gap where the mask is off. -/
inductive Alike : List Bool → List Char → List Char → Prop
  | nil : Alike [] [] []
  | same {b : Bool} {m : List Bool} {c : Char} {xs ys : List Char} :
      Alike m xs ys → Alike (b :: m) (c :: xs) (c :: ys)
  | gap {m : List Bool} {c d : Char} {xs ys : List Char} : isGap c = true → isGap d = true →
      Alike m xs ys → Alike (false :: m) (c :: xs) (d :: ys)

namespace Alike

variable {m n : List Bool} {xs ys zs : List Char}

theorem refl (h : m.length = xs.length) : Alike m xs xs := by
  induction m generalizing xs with
  | nil =>
    obtain rfl := List.eq_nil_of_length_eq_zero h.symm
    exact .nil
  | cons b m ih =>
    cases xs with
    | nil => cases h
    | cons x xs => exact .same (ih (by simpa using h))

theorem append {us vs : List Char} (h : Alike m xs ys) (h' : Alike n us vs) :
    Alike (m ++ n) (xs ++ us) (ys ++ vs) := by
  induction h with
  | nil => exact h'
  | same _ ih => exact .same ih
  | gap hc hd _ ih => exact .gap hc hd ih

theorem exists_of_append (hm : m.length = xs.length) (h : Alike (m ++ n) (xs ++ ys) zs) :
    ∃ us vs, zs = us ++ vs ∧ Alike m xs us ∧ Alike n ys vs := by
  induction xs generalizing m zs with
  | nil =>
    obtain rfl := List.eq_nil_of_length_eq_zero hm
    exact ⟨[], zs, rfl, .nil, h⟩
  | cons x xs ih =>
    cases m with
    | nil => cases hm
    | cons b m =>
      have hlen : m.length = xs.length := by simpa using hm
      cases h with
      | same h =>
        obtain ⟨us, vs, rfl, hu, hv⟩ := ih hlen h
        exact ⟨x :: us, vs, rfl, .same hu, hv⟩
      | @gap _ _ d _ _ hc hd h =>
        obtain ⟨us, vs, rfl, hu, hv⟩ := ih hlen h
        exact ⟨d :: us, vs, rfl, .gap hc hd hu, hv⟩

theorem length_eq (h : Alike m xs ys) : m.length = xs.length ∧ xs.length = ys.length := by
  induction h with
  | nil => exact ⟨rfl, rfl⟩
  | same _ ih => simpa using ih
  | gap _ _ _ ih => simpa using ih

theorem eq_of_true {k : Nat} (h : Alike (List.replicate k true) xs ys) : xs = ys := by
  induction k generalizing xs ys with
  | zero =>
    cases h
    rfl
  | succ k ih =>
    rw [List.replicate_succ] at h
    cases h with
    | same h => rw [ih h]

theorem eq_of_not_isGap (h : Alike m xs ys) (hx : ∀ c ∈ xs, isGap c = false) : xs = ys := by
  induction h with
  | nil => rfl
  | same _ ih =>
    rw [List.forall_mem_cons] at hx
    rw [ih hx.2]
  | gap hc _ _ _ =>
    rw [List.forall_mem_cons] at hx
    simp [hx.1] at hc

theorem forall_isGap (h : Alike m xs ys) (hx : ∀ c ∈ xs, isGap c = true) :
    ∀ c ∈ ys, isGap c = true := by
  induction h with
  | nil => exact hx
  | same _ ih =>
    rw [List.forall_mem_cons] at hx ⊢
    exact ⟨hx.1, ih hx.2⟩
  | gap _ hd _ ih =>
    rw [List.forall_mem_cons] at hx ⊢
    exact ⟨hd, ih hx.2⟩

theorem of_gaps (hl : xs.length = ys.length) (hx : ∀ c ∈ xs, isGap c = true)
    (hy : ∀ c ∈ ys, isGap c = true) : Alike (List.replicate xs.length false) xs ys := by
  induction xs generalizing ys with
  | nil =>
    obtain rfl := List.eq_nil_of_length_eq_zero hl.symm
    exact .nil
  | cons x xs ih =>
    cases ys with
    | nil => cases hl
    | cons y ys =>
      rw [List.forall_mem_cons] at hx hy
      exact .gap hx.1 hy.1 (ih (by simpa using hl) hx.2 hy.2)

/-- A class without gaps ends at the same place. -/
theorem ends {p : Char → Bool} (hp : ∀ c, isGap c = true → p c = false) (h : Alike m xs ys)
    (hx : Ends p xs) : Ends p ys := by
  cases h with
  | nil => exact hx
  | same _ => simpa using hx
  | gap _ hd _ => simpa using hp _ hd

theorem eq_or_isGap (h : Alike m xs ys) {i : Nat} {c d : Char} (hc : xs[i]? = some c)
    (hd : ys[i]? = some d) : c = d ∨ isGap c = true ∧ isGap d = true ∧ m[i]? ≠ some true := by
  induction h generalizing i with
  | nil => simp at hc
  | same _ ih =>
    cases i with
    | zero => simp_all
    | succ i => exact ih hc hd
  | gap hx hy _ ih =>
    cases i with
    | zero => simp_all
    | succ i => exact ih hc hd

theorem of_getElem? (hm : m.length = xs.length) (hl : xs.length = ys.length)
    (h : ∀ (i : Nat) (c d : Char), xs[i]? = some c → ys[i]? = some d →
      c = d ∨ isGap c = true ∧ isGap d = true ∧ m[i]? ≠ some true) : Alike m xs ys := by
  induction m generalizing xs ys with
  | nil =>
    obtain rfl := List.eq_nil_of_length_eq_zero hm.symm
    obtain rfl := List.eq_nil_of_length_eq_zero hl.symm
    exact .nil
  | cons b m ih =>
    cases xs with
    | nil => cases hm
    | cons x xs =>
      cases ys with
      | nil => cases hl
      | cons y ys =>
        have hrest : Alike m xs ys := by
          apply ih (by simpa using hm) (by simpa using hl)
          intro i c d hc hd
          exact h (i + 1) c d (by simpa using hc) (by simpa using hd)
        rcases h 0 x y rfl rfl with rfl | ⟨hx, hy, hb⟩
        · exact .same hrest
        · obtain rfl : b = false := by simpa using hb
          exact .gap hx hy hrest

/-- Character by character: `c` and `d` are those at the same index. -/
theorem iff_getElem? : Alike m xs ys ↔ m.length = xs.length ∧ xs.length = ys.length ∧
    ∀ (i : Nat) (c d : Char), xs[i]? = some c → ys[i]? = some d →
      c = d ∨ isGap c = true ∧ isGap d = true ∧ m[i]? ≠ some true := by
  constructor
  · intro h
    exact ⟨h.length_eq.1, h.length_eq.2, fun i c d => h.eq_or_isGap⟩
  · rintro ⟨hm, hl, h⟩
    exact .of_getElem? hm hl h

theorem after_eq (h : Alike m xs ys) (p : Position) : p.after xs = p.after ys := by
  induction h generalizing p with
  | nil => rfl
  | same _ ih => exact ih _
  | gap hc hd _ ih =>
    rw [Position.after_cons, Position.after_cons, Position.advance_of_ne (ne_newline_of_isGap hc),
      Position.advance_of_ne (ne_newline_of_isGap hd)]
    exact ih _

end Alike

variable {l : Lexicon} {tail tail' : List Char} {segments segments' : List Segment}

/-- Where the next token begins tells how long the gap before it is. -/
theorem length_eq_of_after_eq {xs ys : List Char} {p : Position}
    (hx : ∀ c ∈ xs, isGap c = true) (hy : ∀ c ∈ ys, isGap c = true)
    (h : p.after xs = p.after ys) : xs.length = ys.length := by
  rw [Position.after_of_forall_ne p fun c hc => ne_newline_of_isGap (hx c hc),
    Position.after_of_forall_ne p fun c hc => ne_newline_of_isGap (hy c hc)] at h
  exact Nat.add_left_cancel (congrArg Position.column h)

/-- The tokens and where they end tell all of a text but which characters its gaps have. -/
theorem alike_of_tokensFrom_eq (hl : l.Sound) (hf : Fits l tail segments)
    (hf' : Fits l tail' segments') {source : String} {p : Position}
    (ht : tokensFrom source p segments = tokensFrom source p segments')
    (hp : p.after (spell segments tail) = p.after (spell segments' tail')) :
    Alike (stringMask tail segments) (spell segments tail) (spell segments' tail') := by
  induction segments generalizing segments' p with
  | nil =>
    cases segments' with
    | nil => exact .of_gaps (length_eq_of_after_eq hf hf' hp) hf hf'
    | cons s' segments' => cases ht
  | cons s segments ih =>
    cases segments' with
    | nil => cases ht
    | cons s' segments' =>
      obtain ⟨hg, hx, hf⟩ := hf
      obtain ⟨hg', hx', hf'⟩ := hf'
      obtain ⟨htoken, ht⟩ := List.cons.inj ht
      obtain ⟨-, hgap, hkind, hliteral⟩ := Token.mk.inj htoken
      have hlen := length_eq_of_after_eq hg hg' hgap
      rw [← hkind] at hx'
      have hlex : s.lexeme = s'.lexeme := by
        refine hx.eq_of_literal_eq hl hx' ?_
        rwa [Segment.literal, Segment.literal, ← hkind] at hliteral
      have hchars : p.after s.chars = p.after s'.chars := by
        rw [Segment.chars, Segment.chars, Position.after_append, Position.after_append, hgap, hlex]
      have hend : (p.after s.chars).after (spell segments tail) =
          (p.after s'.chars).after (spell segments' tail') := by simpa [Segment.chars] using hp
      rw [← hchars] at ht hend
      have hrest := ih hf hf' ht hend
      rw [spell_cons, spell_cons, stringMask, ← hlex]
      exact (Alike.of_gaps hlen hg hg').append ((Alike.refl (by simp)).append hrest)

/-- A text that differs in gaps alone is cut in the same places, into the same lexemes. -/
theorem exists_fits_of_alike (hl : l.Sound) (hf : Fits l tail segments) {text : List Char}
    (h : Alike (stringMask tail segments) (spell segments tail) text) :
    ∃ segments' tail', spell segments' tail' = text ∧ Fits l tail' segments' ∧
      ∀ (source : String) (p : Position),
        tokensFrom source p segments' = tokensFrom source p segments := by
  induction segments generalizing text with
  | nil => exact ⟨[], text, rfl, h.forall_isGap hf, fun _ _ => rfl⟩
  | cons s segments ih =>
    obtain ⟨hg, hx, hf⟩ := hf
    rw [stringMask, spell_cons] at h
    obtain ⟨gap, after, rfl, hgap, hafter⟩ := h.exists_of_append (by simp)
    obtain ⟨lexeme, rest, rfl, hlex, hrest⟩ := hafter.exists_of_append (by simp)
    obtain ⟨segments', tail', rfl, hf', htokens⟩ := ih hf hrest
    have hsame : s.lexeme = lexeme := by
      by_cases hs : s.lexeme.head? = some quoteMark
      · rw [Segment.isString, beq_iff_eq.mpr hs] at hlex
        exact hlex.eq_of_true
      · exact hlex.eq_of_not_isGap fun c hc => (hx.plain_of_head?_ne hl hs c hc).2
    subst hsame
    have hx' : Lexeme l s.lexeme s.kind (spell segments' tail') := by
      refine hx.of_follow hl ?_ ?_ ?_
      · exact fun _ => hrest.ends fun c hc => isDigit_eq_false_of_isGap hc
      · exact fun _ => hrest.ends fun c hc => isWordPart_eq_false_of_isGap hc
      · intro _ _ hnil
        exact List.eq_nil_of_length_eq_zero (by rw [← hrest.length_eq.2, hnil, List.length_nil])
    refine ⟨⟨gap, s.lexeme, s.kind⟩ :: segments', tail', by simp, ?_, fun source p => ?_⟩
    · exact ⟨hgap.forall_isGap hg, hx', hf'⟩
    · simp [tokensFrom, Segment.token, Segment.literal, Segment.chars, hgap.after_eq p, htokens]

theorem alike_iff_of_cuts (hl : l.Sound) {d : Segmentation} {s t : String}
    (hd : d.Cuts l s.toList) :
    Alike (stringMask d.tail d.segments) s.toList t.toList ↔ s.length = t.length ∧
      ∀ (i : Nat) (c d : Char), s.toList[i]? = some c → t.toList[i]? = some d →
        c = d ∨ isGap c = true ∧ isGap d = true ∧ ¬ l.InString s.toList i := by
  have hmask := inStrings_spell hl hd.fits
  rw [hd.spell_eq] at hmask
  rw [Alike.iff_getElem?, ← hmask]
  simp [length_inStrings, inString_iff_inStrings hl, String.length_toList]

/-- Two texts have the same tokens exactly when they are equally long and any two characters at the
same index are equal, or else both gaps where the first text has no string. -/
theorem scanText_eq_iff_gaps_differ {l : Lexicon} (hl : l.Reachable) (source s t : String) :
    l.scanText source s = l.scanText source t ↔ s.length = t.length ∧
      ∀ (i : Nat) (c d : Char), s.toList[i]? = some c → t.toList[i]? = some d →
        c = d ∨ isGap c = true ∧ isGap d = true ∧ ¬ l.InString s.toList i := by
  obtain ⟨d, hd, -⟩ := existsUnique_cuts hl.sound s.toList
  obtain ⟨d', hd', -⟩ := existsUnique_cuts hl.sound t.toList
  rw [← alike_iff_of_cuts hl.sound hd]
  constructor
  · intro h
    rw [scanText_of_cuts hl.sound source hd, scanText_of_cuts hl.sound source hd',
      Except.ok.injEq] at h
    obtain ⟨htokens, hfinal⟩ := List.append_inj' h rfl
    have hend : Position.start.after s.toList = Position.start.after t.toList := by
      simpa [Token.final] using hfinal
    rw [← hd.spell_eq, ← hd'.spell_eq] at hend ⊢
    exact alike_of_tokensFrom_eq hl.sound hd.fits hd'.fits htokens hend
  · intro h
    have hend := h.after_eq .start
    rw [← hd.spell_eq] at h
    obtain ⟨segments, tail, ht, hf, htokens⟩ := exists_fits_of_alike hl.sound hd.fits h
    have ht : Segmentation.Cuts ⟨segments, tail⟩ l t.toList := ⟨ht, hf⟩
    rw [scanText_of_cuts hl.sound source hd, scanText_of_cuts hl.sound source ht, hend,
      Segmentation.tokens, Segmentation.tokens, htokens]

/-- A tab is as good as a space between words, but not within a string. -/
theorem scanText_tab_for_space : Lexicon.standard.Reachable ∧
    Lexicon.standard.scanText "m" "a b" = Lexicon.standard.scanText "m" "a\tb" ∧
    Lexicon.standard.scanText "m" "\" \"" ≠ Lexicon.standard.scanText "m" "\"\t\"" := by
  refine ⟨.standard, (scanText_eq_iff_gaps_differ .standard "m" "a b" "a\tb").mpr ⟨?_, ?_⟩, ?_⟩
  · simp [← String.length_toList]
  · intro i c d hc hd
    rw [inString_iff_inStrings Lexicon.Reachable.standard.sound]
    rcases i with _ | _ | _ | i
    · obtain rfl : 'a' = c := by simpa using hc
      exact .inl (by simpa using hd)
    · obtain rfl : ' ' = c := by simpa using hc
      obtain rfl : '\t' = d := by simpa using hd
      decide +kernel
    · obtain rfl : 'b' = c := by simpa using hc
      exact .inl (by simpa using hd)
    · simp at hc
  · intro h
    have hone := ((scanText_eq_iff_gaps_differ .standard "m" _ _).mp h).2 1 ' ' '\t'
      (by simp) (by simp)
    rw [inString_iff_inStrings Lexicon.Reachable.standard.sound] at hone
    revert hone
    decide +kernel

end LuScan
