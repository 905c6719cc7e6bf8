import LuScan.Proofs.Grammar.Lexeme
import LuScan.Proofs.Token.Position
import LuScan.Token.Basic

/-!
Texts cut into lexemes with gaps between them. Under a lexicon that can be built, every text is cut
in exactly one way.
-/
namespace LuScan

/-- A lexeme is its own literal, but a line feed has a marker. -/
def Kind.literal (k : Kind) (lexeme : List Char) : String :=
  if k = .newline then Token.newlineMarker else String.ofList lexeme

/-- The lexeme is a string that is not closed. -/
def Kind.isUnclosed (k : Kind) (lexeme : List Char) : Bool :=
  k == .illegal && lexeme.head? == some quoteMark

/-- More text could go on with the lexeme: an integer, a word or an unclosed string. -/
def Kind.isOpen (k : Kind) (lexeme : List Char) : Bool :=
  k == .integer || k.isWord || k.isUnclosed lexeme

theorem Kind.isOpen_illegal (lexeme : List Char) :
    Kind.illegal.isOpen lexeme = (lexeme.head? == some quoteMark) := rfl

theorem Kind.isOpen_of_isWord {k : Kind} (h : k.isWord = true) (lexeme : List Char) :
    k.isOpen lexeme = true := by simp [isOpen, h]

theorem Kind.isOpen_of_isSymbol {k : Kind} (h : k.isSymbol = true) (lexeme : List Char) :
    k.isOpen lexeme = false := by
  have hinteger : k ≠ .integer := ne_of_isSymbol h rfl
  have hillegal : k ≠ .illegal := ne_of_isSymbol h rfl
  simp [isOpen, isUnclosed, isWord_eq_false_of_isSymbol h, hinteger, hillegal]

theorem Kind.literal_of_ne {k : Kind} (h : k ≠ .newline) (lexeme : List Char) :
    k.literal lexeme = String.ofList lexeme := if_neg h

/-- A lexeme, its kind and the gap before it. -/
@[ext] structure Segment where
  gap : List Char
  lexeme : List Char
  kind : Kind
  deriving DecidableEq, Repr

namespace Segment

def chars (s : Segment) : List Char := s.gap ++ s.lexeme

def literal (s : Segment) : String := s.kind.literal s.lexeme

def isOpen (s : Segment) : Bool := s.kind.isOpen s.lexeme

/-- The token of a segment that begins at `p`. -/
def token (source : String) (p : Position) (s : Segment) : Token :=
  ⟨source, p.after s.gap, s.kind, s.literal⟩

end Segment

/-- The characters of segments and of the gap after the last one. -/
def spell (segments : List Segment) (tail : List Char) : List Char :=
  segments.flatMap Segment.chars ++ tail

@[simp] theorem spell_nil (tail : List Char) : spell [] tail = tail := rfl

@[simp] theorem spell_cons (s : Segment) (segments : List Segment) (tail : List Char) :
    spell (s :: segments) tail = s.gap ++ (s.lexeme ++ spell segments tail) := by
  simp [spell, Segment.chars]

/-- The gaps are gaps, and each lexeme is one where it stands. -/
def Fits (l : Lexicon) (tail : List Char) : List Segment → Prop
  | [] => ∀ c ∈ tail, isGap c = true
  | s :: segments => (∀ c ∈ s.gap, isGap c = true) ∧
      Lexeme l s.lexeme s.kind (spell segments tail) ∧ Fits l tail segments

/-- A way to cut a text: its segments and the gap at its end. -/
structure Segmentation where
  segments : List Segment
  tail : List Char
  deriving DecidableEq, Repr

/-- The text is cut into lexemes of the lexicon. -/
structure Segmentation.Cuts (d : Segmentation) (l : Lexicon) (text : List Char) : Prop where
  spell_eq : spell d.segments d.tail = text
  fits : Fits l d.tail d.segments

variable {l : Lexicon}

/-- The kind and the literal tell which characters were scanned. -/
theorem Lexeme.eq_of_literal_eq (hl : l.Sound) {x y r s : List Char} {k : Kind}
    (hx : Lexeme l x k r) (hy : Lexeme l y k s) (h : k.literal x = k.literal y) : x = y := by
  by_cases hk : k = .newline
  · rw [(hx.kind_eq_newline_iff hl).mp hk, (hy.kind_eq_newline_iff hl).mp hk]
  · rw [Kind.literal_of_ne hk, Kind.literal_of_ne hk] at h
    exact String.ofList_injective h

theorem exists_fits (hl : l.Sound) (text : List Char) :
    ∃ segments tail, spell segments tail = text ∧ Fits l tail segments := by
  generalize hn : text.length = n
  induction n using Nat.strongRecOn generalizing text with
  | ind n ih =>
    obtain ⟨gap, rest, rfl, hgap, hrest⟩ := exists_run isGap text
    cases rest with
    | nil => exact ⟨[], gap, by simp, hgap⟩
    | cons c cs =>
      obtain ⟨x, k, r, he, hx⟩ := Lexeme.exists_of_not_isGap l (ends_cons.mp hrest) cs
      have hpos := List.length_pos_iff.mpr (hx.ne_nil hl)
      have hlen := congrArg List.length he
      simp only [List.length_append] at hn hlen
      obtain ⟨segments, tail, rfl, hfits⟩ := ih r.length (by omega) r rfl
      refine ⟨⟨gap, x, k⟩ :: segments, tail, ?_, hgap, hx, hfits⟩
      rw [spell_cons, he]

/-- A text is cut in one way at most. -/
theorem fits_unique (hl : l.Sound) {segments segments' : List Segment} {tail tail' : List Char}
    (h : Fits l tail segments) (h' : Fits l tail' segments')
    (he : spell segments tail = spell segments' tail') :
    segments = segments' ∧ tail = tail' := by
  induction segments generalizing segments' with
  | nil =>
    cases segments' with
    | nil => exact ⟨rfl, he⟩
    | cons s segments' =>
      obtain ⟨hg, hx, -⟩ := h'
      have hnil : [] = s.lexeme ++ spell segments' tail' :=
        (append_inj_of_ends h hg (ends_nil _) (hx.ends_isGap hl _) (by simpa using he)).2
      simp [hx.ne_nil hl] at hnil
  | cons s segments ih =>
    obtain ⟨hg, hx, hr⟩ := h
    cases segments' with
    | nil =>
      have hnil : s.lexeme ++ spell segments tail = [] :=
        (append_inj_of_ends hg h' (hx.ends_isGap hl _) (ends_nil _) (by simpa using he)).2
      simp [hx.ne_nil hl] at hnil
    | cons s' segments' =>
      obtain ⟨hg', hx', hr'⟩ := h'
      rw [spell_cons, spell_cons] at he
      obtain ⟨hgap, he⟩ :=
        append_inj_of_ends hg hg' (hx.ends_isGap hl _) (hx'.ends_isGap hl _) he
      obtain ⟨hlex, hkind, he⟩ := hx.unique hl hx' he
      obtain ⟨rfl, rfl⟩ := ih hr hr' he
      exact ⟨congrArg (· :: segments) (Segment.ext hgap hlex hkind), rfl⟩

/-- There is exactly one way to cut a text. -/
theorem existsUnique_cuts (hl : l.Sound) (text : List Char) :
    ∃ d : Segmentation, d.Cuts l text ∧ ∀ d' : Segmentation, d'.Cuts l text → d' = d := by
  obtain ⟨segments, tail, he, hfits⟩ := exists_fits hl text
  refine ⟨⟨segments, tail⟩, ⟨he, hfits⟩, fun ⟨segments', tail'⟩ ⟨he', hfits'⟩ => ?_⟩
  obtain ⟨rfl, rfl⟩ := fits_unique hl hfits' hfits (he'.trans he.symm)
  rfl

/-- The tokens of segments that begin at `p`. -/
def tokensFrom (source : String) : Position → List Segment → List Token
  | _, [] => []
  | p, s :: segments => s.token source p :: tokensFrom source (p.after s.chars) segments

/-- The tokens of a text that is cut like this. -/
def Segmentation.tokens (d : Segmentation) (source : String) : List Token :=
  tokensFrom source .start d.segments

/-- The token at the end of a source. -/
def Token.final (source : String) (p : Position) : Token := ⟨source, p, .endOfInput, ""⟩

theorem kind_ne_endOfInput_of_mem_tokensFrom (hl : l.Sound) {source : String} {tail : List Char}
    {segments : List Segment} {p : Position} (hf : Fits l tail segments) {t : Token}
    (ht : t ∈ tokensFrom source p segments) : t.kind ≠ .endOfInput := by
  induction segments generalizing p with
  | nil => cases ht
  | cons s segments ih =>
    obtain ⟨-, hx, hf⟩ := hf
    rcases List.mem_cons.mp ht with rfl | ht
    · exact hx.kind_ne_endOfInput hl
    · exact ih hf ht

end LuScan
