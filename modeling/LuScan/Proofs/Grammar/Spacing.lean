import LuScan.Proofs.Grammar.Concatenation

/-!
Lexemes with other gaps between them. They stay what they are unless two of them come side by side
that go on as one: a word before a word or a number, or a number before a number.
-/
namespace LuScan

namespace Kind

/-- A lexeme of the first kind goes on with one of the second right after it. -/
def joins (k j : Kind) : Bool :=
  k.isWord && (j.isWord || j == .integer) || k == .integer && j == .integer

variable {k : Kind}

theorem joins_of_isWord (h : k.isWord = true) (j : Kind) :
    k.joins j = (j.isWord || j == .integer) := by
  rw [joins, h, beq_false_of_ne (ne_of_isWord h rfl), Bool.true_and, Bool.false_and,
    Bool.or_false]

theorem joins_integer (j : Kind) : integer.joins j = (j == .integer) := by
  have hk : integer.isWord = false := rfl
  rw [joins, hk, Bool.false_and, Bool.false_or, beq_self_eq_true, Bool.true_and]

theorem joins_eq_false (hw : k.isWord = false) (hi : k ≠ .integer) (j : Kind) :
    k.joins j = false := by
  rw [joins, hw, beq_false_of_ne hi, Bool.false_and, Bool.false_and, Bool.or_false]

end Kind

variable {l : Lexicon}

namespace Lexeme

variable {x r : List Char} {k : Kind}

/-- The first character tells numbers and words from all other lexemes. -/
theorem head_class (hl : l.Sound) (h : Lexeme l x k r) : ∃ c cs, x = c :: cs ∧
    isDigit c = (k == .integer) ∧ isWordStart c = k.isWord := by
  have hquote : isDigit quoteMark = false ∧ isWordStart quoteMark = false := by decide +kernel
  have hline : isDigit '\n' = false ∧ isWordStart '\n' = false := by decide +kernel
  cases h with
  | newline => exact ⟨_, _, rfl, hline⟩
  | symbol hs =>
    obtain ⟨hc, hk⟩ := hl.symbol hs
    obtain ⟨-, hw, hd, -⟩ := Lexicon.isFree_iff.mp hc
    have hinteger := beq_false_of_ne (Kind.ne_of_isSymbol hk (j := .integer) rfl)
    have hword := Kind.isWord_eq_false_of_isSymbol hk
    exact ⟨_, _, rfl, hd.trans hinteger.symm, hw.trans hword.symm⟩
  | integer hc => exact ⟨_, _, rfl, hc, isWordStart_eq_false_of_isDigit hc⟩
  | @word c cs _ hc =>
    have hk := hl.isWord_wordKind (String.ofList (c :: cs))
    have hinteger := beq_false_of_ne (Kind.ne_of_isWord hk (j := .integer) rfl)
    have hd := isDigit_eq_false_of_isWordStart hc
    exact ⟨_, _, rfl, hd.trans hinteger.symm, hc.trans hk.symm⟩
  | text => exact ⟨_, _, rfl, hquote⟩
  | openText => exact ⟨_, _, rfl, hquote⟩
  | stray hc =>
    obtain ⟨-, hw, hd, -⟩ := Lexicon.isFree_iff.mp hc
    exact ⟨_, _, rfl, hd, hw⟩

theorem ends_isDigit_iff (hl : l.Sound) (h : Lexeme l x k r) (after : List Char) :
    Ends isDigit (x ++ after) ↔ (k == .integer) = false := by
  obtain ⟨c, cs, rfl, hd, -⟩ := h.head_class hl
  rw [List.cons_append, ends_cons, hd]

theorem ends_isWordPart_iff (hl : l.Sound) (h : Lexeme l x k r) (after : List Char) :
    Ends isWordPart (x ++ after) ↔ (k.isWord || k == .integer) = false := by
  obtain ⟨c, cs, rfl, hd, hw⟩ := h.head_class hl
  have hpart : isWordPart c = (isWordStart c || isDigit c) := Bool.or_right_comm ..
  rw [List.cons_append, ends_cons, hpart, hd, hw]

theorem ends_of_integer (hl : l.Sound) (h : Lexeme l x k r) (hk : k = .integer) :
    Ends isDigit r := by
  cases h with
  | integer _ _ hr => exact hr
  | symbol hs => exact absurd hk (Kind.ne_of_isSymbol (hl.symbol hs).2 rfl)
  | @word c cs =>
    have hword := hl.isWord_wordKind (String.ofList (c :: cs))
    exact absurd hk (Kind.ne_of_isWord hword rfl)
  | newline | text | openText | stray => cases hk

theorem ends_of_isWord (hl : l.Sound) (h : Lexeme l x k r) (hk : k.isWord = true) :
    Ends isWordPart r := by
  cases h with
  | word _ _ hr => exact hr
  | symbol hs =>
    cases hk.symm.trans (Kind.isWord_eq_false_of_isSymbol (hl.symbol hs).2)
  | newline | integer | text | openText | stray => cases hk

/-- A lexeme that is closed does not go on into what follows it. -/
theorem stopsBefore (hl : l.Sound) {s : Segment} {after : List Char}
    (h : Lexeme l s.lexeme s.kind after) (hu : s.kind.isUnclosed s.lexeme = false) :
    s.StopsBefore after :=
  ⟨hu, h.ends_of_integer hl, h.ends_of_isWord hl⟩

/-- A closed lexeme stays one before a gap and another lexeme unless it joins that one. -/
theorem before_lexeme_iff (hl : l.Sound) {s t : Segment} {gap r r' : List Char}
    (hs : Lexeme l s.lexeme s.kind r) (hu : s.kind.isUnclosed s.lexeme = false)
    (ht : Lexeme l t.lexeme t.kind r') (hg : ∀ c ∈ gap, isGap c = true) (after : List Char) :
    Lexeme l s.lexeme s.kind (gap ++ (t.lexeme ++ after)) ↔
      (s.kind.joins t.kind = true → gap ≠ []) := by
  constructor
  · rintro hx hj rfl
    have hstop := hx.stopsBefore hl hu
    by_cases hw : s.kind.isWord = true
    · have hends := (ht.ends_isWordPart_iff hl after).mp (hstop.word hw)
      rw [Kind.joins_of_isWord hw, hends] at hj
      cases hj
    · by_cases hi : s.kind = .integer
      · have hends := (ht.ends_isDigit_iff hl after).mp (hstop.integer hi)
        rw [hi, Kind.joins_integer, hends] at hj
        cases hj
      · rw [Kind.joins_eq_false (Bool.eq_false_iff.mpr hw) hi] at hj
        cases hj
  · intro hj
    apply hs.of_stopsBefore hl
    constructor
    · exact hu
    · intro hi
      refine .gap_append (fun c => isDigit_eq_false_of_isGap) hg fun hnil => ?_
      rw [ht.ends_isDigit_iff hl, ← Kind.joins_integer, ← hi]
      exact Bool.eq_false_iff.mpr fun h => hj h hnil
    · intro hw
      refine .gap_append (fun c => isWordPart_eq_false_of_isGap) hg fun hnil => ?_
      rw [ht.ends_isWordPart_iff hl, ← Kind.joins_of_isWord hw]
      exact Bool.eq_false_iff.mpr fun h => hj h hnil

/-- A lexeme stays one before a gap at the end, which is empty after a string that is not closed. -/
theorem before_tail (hl : l.Sound) {s : Segment} {gap : List Char}
    (hs : Lexeme l s.lexeme s.kind r) (hg : ∀ c ∈ gap, isGap c = true)
    (hu : s.kind.isUnclosed s.lexeme = true → gap = []) : Lexeme l s.lexeme s.kind gap := by
  have hends {p : Char → Bool} (hp : ∀ c, isGap c = true → p c = false) : Ends p gap := by
    rw [← List.append_nil gap]
    exact .gap_append hp hg fun _ => ends_nil p
  apply hs.of_follow hl
  · exact fun _ _ => hends fun c => isDigit_eq_false_of_isGap
  · exact fun _ _ => hends fun c => isWordPart_eq_false_of_isGap
  · intro hk hq _
    apply hu
    rw [Kind.isUnclosed, hk, hq]
    rfl

end Lexeme

/-- What stays of a segment in its token wherever it stands. -/
def Segment.content (s : Segment) : Kind × String := (s.kind, s.literal)

/-- The lexemes with other gaps before them, the first one before the first lexeme. -/
def respace (gap : Nat → List Char) : List Segment → List Segment
  | [] => []
  | s :: segments => { s with gap := gap 0 } :: respace (fun i => gap (i + 1)) segments

theorem map_content_respace (gap : Nat → List Char) (segments : List Segment) :
    (respace gap segments).map Segment.content = segments.map Segment.content := by
  induction segments generalizing gap with
  | nil => rfl
  | cons s segments ih =>
    rw [respace, List.map_cons, List.map_cons, ih]
    rfl

/-- No lexeme joins the next one: where the kinds do, the gap between the two is not empty. -/
def Apart (gap : Nat → List Char) (kinds : List Kind) : Prop :=
  ∀ (i : Nat) (k j : Kind), kinds[i]? = some k → kinds[i + 1]? = some j →
    k.joins j = true → gap (i + 1) ≠ []

theorem apart_cons_cons {gap : Nat → List Char} {k j : Kind} {kinds : List Kind} :
    Apart gap (k :: j :: kinds) ↔
      (k.joins j = true → gap 1 ≠ []) ∧ Apart (fun i => gap (i + 1)) (j :: kinds) := by
  constructor
  · intro h
    exact ⟨h 0 k j rfl rfl, fun i => h (i + 1)⟩
  · rintro ⟨hfirst, hrest⟩ i k' j' hk hj
    cases i with
    | zero =>
      obtain rfl : k = k' := by simpa using hk
      obtain rfl : j = j' := by simpa using hj
      exact hfirst
    | succ i => exact hrest i k' j' hk hj

variable {tail : List Char} {segments : List Segment}

/-- With other gaps the lexemes are scanned again exactly when no two of them join. -/
theorem fits_respace_iff (hl : l.Sound) (hf : Fits l tail segments) {gap : Nat → List Char}
    (hg : ∀ i ≤ segments.length, ∀ c ∈ gap i, isGap c = true)
    (hlast : ∀ s ∈ segments.getLast?, s.kind.isUnclosed s.lexeme = true →
      gap segments.length = []) :
    Fits l (gap segments.length) (respace gap segments) ↔
      Apart gap (segments.map Segment.kind) := by
  induction segments generalizing gap with
  | nil =>
    constructor
    · intro _ i k j hk
      cases hk
    · intro _
      exact hg 0 (Nat.le_refl _)
  | cons s segments ih =>
    obtain ⟨-, hx, hf⟩ := hf
    have hgap := hg 0 (Nat.zero_le _)
    have hgaps : ∀ i ≤ segments.length, ∀ c ∈ gap (i + 1), isGap c = true :=
      fun i hi => hg (i + 1) (Nat.succ_le_succ hi)
    cases segments with
    | nil =>
      constructor
      · intro _ i k j _ hj
        cases hj
      · intro _
        exact ⟨hgap, hx.before_tail hl (hgaps 0 (Nat.le_refl _)) (hlast s rfl),
          hgaps 0 (Nat.le_refl _)⟩
    | cons t segments =>
      have hnext : spell (t :: segments) tail ≠ [] := by simp [hf.2.1.ne_nil hl]
      have hclosed : s.kind.isUnclosed s.lexeme = false :=
        Bool.eq_false_iff.mpr fun hu => hnext (hx.eq_nil_of_isUnclosed hl hu)
      have hspell : spell (respace (fun i => gap (i + 1)) (t :: segments))
          (gap (segments.length + 2)) = gap 1 ++ (t.lexeme ++
            spell (respace (fun i => gap (i + 2)) segments) (gap (segments.length + 2))) :=
        spell_cons _ _ _
      have hpair := hx.before_lexeme_iff hl hclosed hf.2.1 (hgaps 0 (Nat.zero_le _))
      have hrest := ih hf hgaps fun u hu => hlast u hu
      have happart : Apart gap ((s :: t :: segments).map Segment.kind) ↔
          (s.kind.joins t.kind = true → gap 1 ≠ []) ∧
            Apart (fun i => gap (i + 1)) ((t :: segments).map Segment.kind) := apart_cons_cons
      rw [happart, ← hrest, ← hpair, ← hspell]
      exact and_iff_right hgap

/-- A text of the respaced lexemes that is cut into the same kinds and literals has these gaps. -/
theorem eq_respace_of_spell_eq (hl : l.Sound) (hf : Fits l tail segments) {gap : Nat → List Char}
    (hg : ∀ i ≤ segments.length, ∀ c ∈ gap i, isGap c = true) {segments' : List Segment}
    {tail' : List Char} (hf' : Fits l tail' segments')
    (hsame : segments'.map Segment.content = segments.map Segment.content)
    (hspell : spell segments' tail' = spell (respace gap segments) (gap segments.length)) :
    segments' = respace gap segments ∧ tail' = gap segments.length := by
  induction segments generalizing gap segments' with
  | nil =>
    obtain rfl := List.map_eq_nil_iff.mp hsame
    exact ⟨rfl, hspell⟩
  | cons s segments ih =>
    cases segments' with
    | nil => cases hsame
    | cons s' segments' =>
      obtain ⟨-, hx, hf⟩ := hf
      obtain ⟨hgap', hx', hf'⟩ := hf'
      obtain ⟨hcontent, hsame⟩ := List.cons.inj hsame
      obtain ⟨hkind, hliteral⟩ := Prod.mk.inj hcontent
      have hlex : s'.lexeme = s.lexeme := by
        rw [hkind] at hx'
        refine hx'.eq_of_literal_eq hl hx ?_
        rwa [Segment.literal, Segment.literal, hkind] at hliteral
      rw [respace, spell_cons, spell_cons, hlex] at hspell
      obtain ⟨hgap, hrest⟩ := append_inj_of_ends hgap' (hg 0 (Nat.zero_le _))
        (hx.ends_isGap hl _) (hx.ends_isGap hl _) hspell
      obtain ⟨hsegments, htail⟩ := ih hf (fun i hi => hg (i + 1) (Nat.succ_le_succ hi)) hf' hsame
        (List.append_cancel_left hrest)
      rw [respace, ← hsegments]
      exact ⟨congrArg (· :: segments') (Segment.ext hgap hlex hkind), htail⟩

/-- The text of some lexemes with other gaps is cut into the same lexemes exactly when no two of
them join. -/
theorem map_content_eq_iff_apart (hl : l.Sound) (hf : Fits l tail segments)
    {gap : Nat → List Char} (hg : ∀ i ≤ segments.length, ∀ c ∈ gap i, isGap c = true)
    (hlast : ∀ s ∈ segments.getLast?, s.kind.isUnclosed s.lexeme = true →
      gap segments.length = []) {d : Segmentation}
    (hd : d.Cuts l (spell (respace gap segments) (gap segments.length))) :
    d.segments.map Segment.content = segments.map Segment.content ↔
      Apart gap (segments.map Segment.kind) := by
  rw [← fits_respace_iff hl hf hg hlast]
  constructor
  · intro hsame
    obtain ⟨hsegments, htail⟩ := eq_respace_of_spell_eq hl hf hg hd.fits hsame hd.spell_eq
    rw [← hsegments, ← htail]
    exact hd.fits
  · intro hfits
    obtain ⟨hsegments, -⟩ := fits_unique hl hd.fits hfits hd.spell_eq
    rw [hsegments, map_content_respace]

end LuScan
