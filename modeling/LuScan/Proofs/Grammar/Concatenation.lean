import LuScan.Proofs.Grammar.Strings

/-!
Texts one after the other. What follows a text matters to its last lexeme alone: the other lexemes
stay, and so does the last one unless it goes on.
-/
namespace LuScan

variable {l : Lexicon}

/-- A class without gaps ends at a gap, and at what stands there if the gap is empty. -/
theorem Ends.gap_append {p : Char → Bool} (hp : ∀ c, isGap c = true → p c = false)
    {gap rest : List Char} (hg : ∀ c ∈ gap, isGap c = true) (hr : gap = [] → Ends p rest) :
    Ends p (gap ++ rest) := by
  cases gap with
  | nil => exact hr rfl
  | cons c gap =>
    rw [List.forall_mem_cons] at hg
    simpa using hp c hg.1

/-- Of what follows a lexeme, only the first character matters. -/
theorem Lexeme.of_append (hl : l.Sound) {x ys r s : List Char} {k : Kind}
    (h : Lexeme l x k (ys ++ r)) (hy : ys ≠ []) : Lexeme l x k (ys ++ s) := by
  cases ys with
  | nil => exact absurd rfl hy
  | cons c ys =>
    apply h.of_follow hl
    · intro _ he
      simpa using he
    · intro _ he
      simpa using he
    · intro _ _ hnil
      cases hnil

/-- The lexeme does not go on into `after`. -/
structure Segment.StopsBefore (s : Segment) (after : List Char) : Prop where
  closed : s.kind.isUnclosed s.lexeme = false
  integer : s.kind = .integer → Ends isDigit after
  word : s.kind.isWord = true → Ends isWordPart after

theorem Segment.stopsBefore_of_newline {s : Segment} (h : s.kind = .newline)
    (after : List Char) : s.StopsBefore after := by
  have hk : Kind.newline.isWord = false := by decide
  constructor <;> simp [h, hk, Kind.isUnclosed]

theorem Lexeme.of_stopsBefore (hl : l.Sound) {s : Segment} {rest after : List Char}
    (h : Lexeme l s.lexeme s.kind rest) (hs : s.StopsBefore after) :
    Lexeme l s.lexeme s.kind after := by
  apply h.of_follow hl
  · intro hk _
    exact hs.integer hk
  · intro hk _
    exact hs.word hk
  · intro hk hq _
    have hclosed := hs.closed
    simp [Kind.isUnclosed, hk, hq] at hclosed

theorem spell_append (xs ys : List Segment) (tail : List Char) :
    spell (xs ++ ys) tail = spell xs (spell ys tail) := by
  simp [spell]

theorem spell_eq_append (segments : List Segment) (after : List Char) :
    spell segments after = spell segments [] ++ after := by
  simp [spell]

/-- The segments stand where `after` follows them. -/
def FitsBefore (l : Lexicon) (after : List Char) : List Segment → Prop
  | [] => True
  | s :: segments => (∀ c ∈ s.gap, isGap c = true) ∧
      Lexeme l s.lexeme s.kind (spell segments after) ∧ FitsBefore l after segments

theorem fits_append_iff {tail : List Char} {xs ys : List Segment} :
    Fits l tail (xs ++ ys) ↔ FitsBefore l (spell ys tail) xs ∧ Fits l tail ys := by
  induction xs with
  | nil => simp [FitsBefore]
  | cons x xs ih => simp [Fits, FitsBefore, spell_append, ih, and_assoc]

theorem fits_iff_fitsBefore {tail : List Char} {segments : List Segment} :
    Fits l tail segments ↔ FitsBefore l tail segments ∧ ∀ c ∈ tail, isGap c = true := by
  rw [← List.append_nil segments, fits_append_iff, List.append_nil]
  rfl

theorem FitsBefore.spell_ne_nil (hl : l.Sound) {after : List Char} {segments : List Segment}
    (hf : FitsBefore l after segments) (hne : segments ≠ []) : spell segments [] ≠ [] := by
  cases segments with
  | nil => exact absurd rfl hne
  | cons s segments => simp [hf.2.1.ne_nil hl]

/-- What follows segments may be exchanged if the last of them does not mind. -/
theorem FitsBefore.of_last (hl : l.Sound) {after after' : List Char} {segments : List Segment}
    (hf : FitsBefore l after segments) (hlast : ∀ s ∈ segments.getLast?,
      Lexeme l s.lexeme s.kind after → Lexeme l s.lexeme s.kind after') :
    FitsBefore l after' segments := by
  induction segments with
  | nil => trivial
  | cons s segments ih =>
    obtain ⟨hg, hx, hf⟩ := hf
    cases segments with
    | nil => exact ⟨hg, hlast s rfl hx, trivial⟩
    | cons t segments =>
      refine ⟨hg, ?_, ih hf fun u hu => hlast u ?_⟩
      · rw [spell_eq_append] at hx ⊢
        exact hx.of_append hl (hf.spell_ne_nil hl (by simp))
      · rwa [List.getLast?_cons_cons]

namespace Segmentation

variable {d d' : Segmentation} {gap p q : List Char}

/-- The text is cut in the same way after a longer gap. -/
def prependGap (gap : List Char) : Segmentation → Segmentation
  | ⟨[], tail⟩ => ⟨[], gap ++ tail⟩
  | ⟨s :: segments, tail⟩ => ⟨{ s with gap := gap ++ s.gap } :: segments, tail⟩

theorem Cuts.prependGap (hg : ∀ c ∈ gap, isGap c = true) (hd : d.Cuts l p) :
    (d.prependGap gap).Cuts l (gap ++ p) := by
  obtain ⟨segments, tail⟩ := d
  obtain ⟨rfl, hf⟩ := hd
  cases segments with
  | nil => exact ⟨rfl, List.forall_mem_append.mpr ⟨hg, hf⟩⟩
  | cons s segments =>
    obtain ⟨hs, hx, hf⟩ := hf
    exact ⟨by simp [Segmentation.prependGap], List.forall_mem_append.mpr ⟨hg, hs⟩, hx, hf⟩

theorem tokensFrom_prependGap (source : String) (e : Position) (d : Segmentation) :
    tokensFrom source e (d.prependGap gap).segments =
      tokensFrom source (e.after gap) d.segments := by
  obtain ⟨segments, tail⟩ := d
  cases segments with
  | nil => rfl
  | cons s segments =>
    simp [prependGap, tokensFrom, Segment.token, Segment.chars, Segment.literal]

/-- The segments of one text and those of the next, which begin with the gap at the seam. -/
def append (d d' : Segmentation) : Segmentation :=
  ⟨d.segments ++ (d'.prependGap d.tail).segments, (d'.prependGap d.tail).tail⟩

/-- Two texts are cut as each of them is if the last lexeme of the first does not go on. -/
theorem Cuts.append (hl : l.Sound) (hd : d.Cuts l p) (hd' : d'.Cuts l q)
    (hseam : ∀ s ∈ d.segments.getLast?, s.StopsBefore (d.tail ++ q)) :
    (d.append d').Cuts l (p ++ q) := by
  obtain ⟨hf, hg⟩ := fits_iff_fitsBefore.mp hd.fits
  obtain ⟨hspell, hf'⟩ := hd'.prependGap hg
  have hbefore : FitsBefore l (d.tail ++ q) d.segments :=
    hf.of_last hl fun s hs hx => hx.of_stopsBefore hl (hseam s hs)
  constructor
  · rw [Segmentation.append, spell_append, hspell, spell_eq_append, ← List.append_assoc,
      ← spell_eq_append, hd.spell_eq]
  · rw [Segmentation.append, fits_append_iff, hspell]
    exact ⟨hbefore, hf'⟩

/-- All lexemes but the last stay, whatever comes after the text. -/
theorem Cuts.exists_append (hl : l.Sound) (hd : d.Cuts l p) (q : List Char) :
    ∃ d' : Segmentation, d'.Cuts l (p ++ q) ∧ d.segments.dropLast <+: d'.segments := by
  obtain ⟨segments, tail⟩ := d
  obtain ⟨rfl, hf⟩ := hd
  rcases List.eq_nil_or_concat segments with rfl | ⟨init, s, hlast⟩
  · obtain ⟨d', hd', -⟩ := existsUnique_cuts hl (tail ++ q)
    exact ⟨d', hd', List.nil_prefix⟩
  · rw [List.concat_eq_append] at hlast
    subst hlast
    obtain ⟨hinit, hs⟩ := fits_append_iff.mp hf
    have hne : spell [s] tail ≠ [] := by
      rw [spell_cons]
      simp [hs.2.1.ne_nil hl]
    obtain ⟨segments, tail', hspell, hf'⟩ := exists_fits hl (spell [s] tail ++ q)
    refine ⟨⟨init ++ segments, tail'⟩, ⟨?_, ?_⟩, by simp⟩
    · rw [spell_append, hspell, spell_append, spell_eq_append, ← List.append_assoc,
        ← spell_eq_append]
    · rw [fits_append_iff, hspell]
      refine ⟨hinit.of_last hl fun t _ hx => ?_, hf'⟩
      rw [← List.append_nil (spell [s] tail)] at hx
      exact hx.of_append hl hne

/-- A text outside of strings at its end has no unclosed string as its last lexeme. -/
theorem isUnclosed_eq_false_of_insideAfter (hl : l.Sound) {tail : List Char}
    {segments : List Segment} (hf : Fits l tail segments)
    (h : insideAfter false (spell segments tail) = false) :
    ∀ s ∈ segments.getLast?, s.kind.isUnclosed s.lexeme = false := by
  induction segments with
  | nil => simp
  | cons s segments ih =>
    obtain ⟨hg, hx, hf⟩ := hf
    rw [spell_cons, insideAfter_append, insideAfter_append,
      insideAfter_of_notMem (quoteMark_notMem_of_forall_isGap hg), hx.insideAfter_eq hl] at h
    cases hu : s.kind.isUnclosed s.lexeme with
    | true =>
      rw [hx.eq_nil_of_isUnclosed hl hu, hu] at h
      cases h
    | false =>
      rw [hu] at h
      cases segments with
      | nil => simpa using hu
      | cons t segments =>
        rw [List.getLast?_cons_cons]
        exact ih hf h

/-- A line feed that no string holds is the last lexeme of the text that it ends. -/
theorem Cuts.kind_eq_newline (hl : l.Sound) (hd : d.Cuts l (p ++ ['\n']))
    (h : insideAfter false p = false) : ∀ s ∈ d.segments.getLast?, s.kind = .newline := by
  obtain ⟨e, he, -⟩ := existsUnique_cuts hl p
  have hnewline : Cuts ⟨[⟨[], ['\n'], .newline⟩], []⟩ l ['\n'] :=
    ⟨rfl, by simp, .newline, by simp [Fits]⟩
  have hgap := (fits_iff_fitsBefore.mp he.fits).2
  have hseam : ∀ s ∈ e.segments.getLast?, s.StopsBefore (e.tail ++ ['\n']) := by
    intro s hs
    rw [← he.spell_eq] at h
    constructor
    · exact isUnclosed_eq_false_of_insideAfter hl he.fits h s hs
    · intro _
      exact .gap_append (fun c => isDigit_eq_false_of_isGap) hgap fun _ => by decide +kernel
    · intro _
      exact .gap_append (fun c => isWordPart_eq_false_of_isGap) hgap fun _ => by decide +kernel
  have hcut := he.append hl hnewline hseam
  obtain ⟨hsame, -⟩ := fits_unique hl hd.fits hcut.fits (hd.spell_eq.trans hcut.spell_eq.symm)
  rw [hsame]
  simp [Segmentation.append, Segmentation.prependGap]

end Segmentation

end LuScan
