import LuScan.Proofs.Lexicon.Reachable

/-!
The grammar of lexemes. It says of some characters and of those that follow whether the former are
a lexeme; what a text starts with is a lexeme in one way at most, and in one way if it is no gap.
-/
namespace LuScan

/-- White space other than the line feed: what may stand between lexemes. -/
def isGap (c : Char) : Bool := isBlank c && c != '\n'

theorem ne_newline_of_isGap {c : Char} (h : isGap c = true) : c ≠ '\n' := by
  rintro rfl
  simp [isGap] at h

theorem isWordPart_eq_false_of_isGap {c : Char} (h : isGap c = true) : isWordPart c = false := by
  cases hw : isWordPart c with
  | false => rfl
  | true => simp [isGap, isBlank_eq_false_of_isWordPart hw] at h

theorem isDigit_eq_false_of_isGap {c : Char} (h : isGap c = true) : isDigit c = false := by
  cases hd : isDigit c with
  | false => rfl
  | true =>
    have hw := isWordPart_eq_false_of_isGap h
    simp [isWordPart_of_isDigit hd] at hw

/-- The classes of characters that the scanner tells apart. -/
theorem class_cases (c : Char) : isGap c = true ∨ c = '\n' ∨ isDigit c = true ∨
    isWordStart c = true ∨ c = quoteMark ∨ Lexicon.isFree c = true := by
  by_cases hn : c = '\n'
  · simp [hn]
  by_cases hq : c = quoteMark
  · simp [hq]
  rw [Lexicon.isFree_iff]
  cases hb : isBlank c <;> cases hd : isDigit c <;> cases hw : isWordStart c <;>
    simp [isGap, hb, hn, hq]

/-- No character of the class comes next. -/
def Ends (p : Char → Bool) (rest : List Char) : Prop := ∀ c ∈ rest.head?, p c = false

instance (p : Char → Bool) (rest : List Char) : Decidable (Ends p rest) :=
  decidable_of_iff (rest.head?.all fun c => !p c) (by simp [Ends, Option.all_eq_true])

/-- The characters are a lexeme of a kind where `rest` follows them. -/
inductive Lexeme (l : Lexicon) : List Char → Kind → List Char → Prop
  | newline {rest : List Char} : Lexeme l ['\n'] .newline rest
  | symbol {c : Char} {k : Kind} {rest : List Char} : l.symbol? c = some k → Lexeme l [c] k rest
  | integer {c : Char} {cs rest : List Char} : isDigit c = true → (∀ d ∈ cs, isDigit d = true) →
      Ends isDigit rest → Lexeme l (c :: cs) .integer rest
  | word {c : Char} {cs rest : List Char} : isWordStart c = true →
      (∀ d ∈ cs, isWordPart d = true) → Ends isWordPart rest →
      Lexeme l (c :: cs) (l.wordKind (String.ofList (c :: cs))) rest
  | text {body rest : List Char} : quoteMark ∉ body →
      Lexeme l (quoteMark :: (body ++ [quoteMark])) .text rest
  | openText {body : List Char} : quoteMark ∉ body → Lexeme l (quoteMark :: body) .illegal []
  | stray {c : Char} {rest : List Char} : Lexicon.isFree c = true → l.symbol? c = none →
      Lexeme l [c] .illegal rest

@[simp] theorem ends_nil (p : Char → Bool) : Ends p [] := by simp [Ends]

@[simp] theorem ends_cons {p : Char → Bool} {c : Char} {cs : List Char} :
    Ends p (c :: cs) ↔ p c = false := by simp [Ends]

/-- A run of a class that ends where the class does is found again from the whole. -/
theorem append_inj_of_ends {p : Char → Bool} {xs ys r s : List Char}
    (hx : ∀ c ∈ xs, p c = true) (hy : ∀ c ∈ ys, p c = true) (hr : Ends p r) (hs : Ends p s)
    (h : xs ++ r = ys ++ s) : xs = ys ∧ r = s := by
  have htake {zs t : List Char} (hz : ∀ c ∈ zs, p c = true) (ht : Ends p t) :
      (zs ++ t).takeWhile p = zs := by
    rw [List.takeWhile_append_of_pos hz]
    cases t with
    | nil => simp
    | cons c t => simp [ends_cons.mp ht]
  have he : xs = ys := by rw [← htake hx hr, h, htake hy hs]
  subst he
  exact ⟨rfl, List.append_cancel_left h⟩

theorem exists_run (p : Char → Bool) (cs : List Char) :
    ∃ xs rest, cs = xs ++ rest ∧ (∀ c ∈ xs, p c = true) ∧ Ends p rest := by
  induction cs with
  | nil => exact ⟨[], [], rfl, by simp, by simp⟩
  | cons c cs ih =>
    cases hc : p c with
    | false => exact ⟨[], c :: cs, rfl, by simp, by simpa using hc⟩
    | true =>
      obtain ⟨xs, rest, rfl, hx, hr⟩ := ih
      refine ⟨c :: xs, rest, rfl, ?_, hr⟩
      rw [List.forall_mem_cons]
      exact ⟨hc, hx⟩

/-- What may come after the first character of a lexeme that opens like this. -/
def Completes (l : Lexicon) (c : Char) (cs : List Char) (k : Kind) (rest : List Char) :
    Lexicon.Opening → Prop
  | .newline => cs = [] ∧ k = .newline
  | .symbol j => cs = [] ∧ k = j
  | .digits => (∀ d ∈ cs, isDigit d = true) ∧ Ends isDigit rest ∧ k = .integer
  | .word => (∀ d ∈ cs, isWordPart d = true) ∧ Ends isWordPart rest ∧
      k = l.wordKind (String.ofList (c :: cs))
  | .text => (∃ body, quoteMark ∉ body ∧ cs = body ++ [quoteMark] ∧ k = .text) ∨
      quoteMark ∉ cs ∧ rest = [] ∧ k = .illegal
  | .stray => cs = [] ∧ k = .illegal

namespace Lexicon

theorem opening?_of_isGap {l : Lexicon} (hl : l.Sound) {c : Char} (hc : isGap c = true) :
    l.opening? c = none := by
  simp only [isGap, Bool.and_eq_true, bne_iff_ne] at hc
  have hs := hl.symbol?_eq_none (c := c) (by simp [isFree, hc.1])
  simp [opening?, hs, hc]

/-- Nothing but a gap opens nothing. -/
theorem isGap_of_opening? {l : Lexicon} {c : Char} (h : l.opening? c = none) :
    isGap c = true := by
  unfold opening? at h
  split at h
  next => cases h
  next hn =>
    split at h
    next => cases h
    next =>
      cases hb : isBlank c with
      | true => simp [isGap, hb, hn]
      | false =>
        rw [hb, if_neg Bool.false_ne_true] at h
        repeat' split at h
        all_goals cases h

theorem opening?_of_symbol {l : Lexicon} (hl : l.Sound) {c : Char} {k : Kind}
    (hc : l.symbol? c = some k) : l.opening? c = some (.symbol k) := by
  simp [opening?, hc, ne_newline_of_isFree (hl.symbol hc).1]

theorem opening?_of_isDigit {l : Lexicon} (hl : l.Sound) {c : Char} (hc : isDigit c = true) :
    l.opening? c = some .digits := by
  have hs := hl.symbol?_eq_none (c := c) (by simp [isFree, hc])
  have hw := isWordPart_of_isDigit hc
  simp [opening?, hs, isBlank_eq_false_of_isWordPart hw, ne_newline_of_isWordPart hw, hc]

theorem opening?_of_isWordStart {l : Lexicon} (hl : l.Sound) {c : Char}
    (hc : isWordStart c = true) : l.opening? c = some .word := by
  have hs := hl.symbol?_eq_none (c := c) (by simp [isFree, hc])
  have hw := isWordPart_of_isWordStart hc
  simp [opening?, hs, isBlank_eq_false_of_isWordPart hw, ne_newline_of_isWordPart hw,
    isDigit_eq_false_of_isWordStart hc, hc]

theorem opening?_quoteMark {l : Lexicon} (hl : l.Sound) : l.opening? quoteMark = some .text := by
  have hs := hl.symbol?_eq_none (c := quoteMark) (by decide +kernel)
  have hc : quoteMark ≠ '\n' ∧ isBlank quoteMark = false ∧ isDigit quoteMark = false ∧
      isWordStart quoteMark = false := by decide +kernel
  simp [opening?, hs, hc]

theorem opening?_of_isFree {l : Lexicon} {c : Char} (hc : isFree c = true)
    (hs : l.symbol? c = none) : l.opening? c = some .stray := by
  have hn := ne_newline_of_isFree hc
  obtain ⟨hb, hw, hd, hq⟩ := isFree_iff.mp hc
  simp [opening?, hs, hb, hn, hd, hw, hq]

end Lexicon

namespace Lexeme

variable {l : Lexicon} {x y r s : List Char} {j k : Kind}

/-- The first character of a lexeme opens it, and the others complete it. -/
theorem completes (hl : l.Sound) (h : Lexeme l x k r) :
    ∃ c cs o, x = c :: cs ∧ l.opening? c = some o ∧ Completes l c cs k r o := by
  cases h with
  | newline => exact ⟨_, _, .newline, rfl, rfl, rfl, rfl⟩
  | symbol hs => exact ⟨_, _, _, rfl, Lexicon.opening?_of_symbol hl hs, rfl, rfl⟩
  | integer hc hcs hr => exact ⟨_, _, _, rfl, Lexicon.opening?_of_isDigit hl hc, hcs, hr, rfl⟩
  | word hc hcs hr => exact ⟨_, _, _, rfl, Lexicon.opening?_of_isWordStart hl hc, hcs, hr, rfl⟩
  | @text body _ hb =>
    exact ⟨_, _, _, rfl, Lexicon.opening?_quoteMark hl, .inl ⟨body, hb, rfl, rfl⟩⟩
  | openText hb => exact ⟨_, _, _, rfl, Lexicon.opening?_quoteMark hl, .inr ⟨hb, rfl, rfl⟩⟩
  | stray hc hs => exact ⟨_, _, _, rfl, Lexicon.opening?_of_isFree hc hs, rfl, rfl⟩

theorem ne_nil (hl : l.Sound) (h : Lexeme l x k r) : x ≠ [] := by
  obtain ⟨c, cs, o, rfl, -, -⟩ := h.completes hl
  simp

/-- A lexeme does not begin with a gap. -/
theorem ends_isGap (hl : l.Sound) (h : Lexeme l x k r) (t : List Char) :
    Ends isGap (x ++ t) := by
  obtain ⟨c, cs, o, rfl, ho, -⟩ := h.completes hl
  rw [List.cons_append, ends_cons]
  cases hc : isGap c with
  | false => rfl
  | true => simp [Lexicon.opening?_of_isGap hl hc] at ho

/-- Up to its closing mark or, without one, to the end, a string literal is found again. -/
private theorem text_unique {c : Char} {cs ds : List Char} (h : cs ++ r = ds ++ s)
    (hx : Completes l c cs j r .text) (hy : Completes l c ds k s .text) : cs = ds ∧ j = k := by
  have hclass {body : List Char} (hb : quoteMark ∉ body) : ∀ d ∈ body, (d != quoteMark) = true := by
    intro d hd
    rw [bne_iff_ne]
    rintro rfl
    exact hb hd
  rcases hx with ⟨body, hb, rfl, rfl⟩ | ⟨hb, rfl, rfl⟩ <;>
    rcases hy with ⟨body', hb', rfl, rfl⟩ | ⟨hb', rfl, rfl⟩
  · rw [List.append_assoc, List.append_assoc] at h
    obtain ⟨rfl, -⟩ := append_inj_of_ends (hclass hb) (hclass hb') (by simp) (by simp) h
    exact ⟨rfl, rfl⟩
  · rw [List.append_nil] at h
    subst h
    simp at hb'
  · rw [List.append_nil] at h
    subst h
    simp at hb
  · rw [List.append_nil, List.append_nil] at h
    exact ⟨h, rfl⟩

/-- A text starts with one lexeme of one kind at most. -/
theorem unique (hl : l.Sound) (hx : Lexeme l x j r) (hy : Lexeme l y k s)
    (h : x ++ r = y ++ s) : x = y ∧ j = k ∧ r = s := by
  obtain ⟨c, cs, o, rfl, ho, hx⟩ := hx.completes hl
  obtain ⟨d, ds, o', rfl, ho', hy⟩ := hy.completes hl
  simp only [List.cons_append, List.cons.injEq] at h
  obtain ⟨rfl, h⟩ := h
  obtain rfl : o = o' := by simpa [ho] using ho'
  have hsame : cs = ds ∧ j = k := by
    cases o with
    | newline | symbol _ | stray => exact ⟨hx.1.trans hy.1.symm, hx.2.trans hy.2.symm⟩
    | digits =>
      obtain ⟨rfl, -⟩ := append_inj_of_ends hx.1 hy.1 hx.2.1 hy.2.1 h
      exact ⟨rfl, hx.2.2.trans hy.2.2.symm⟩
    | word =>
      obtain ⟨rfl, -⟩ := append_inj_of_ends hx.1 hy.1 hx.2.1 hy.2.1 h
      exact ⟨rfl, hx.2.2.trans hy.2.2.symm⟩
    | text => exact text_unique h hx hy
  obtain ⟨rfl, rfl⟩ := hsame
  exact ⟨rfl, rfl, List.append_cancel_left h⟩

/-- What does not start with a gap starts with a lexeme. -/
theorem exists_of_not_isGap (l : Lexicon) {c : Char} (hc : isGap c = false) (cs : List Char) :
    ∃ x k rest, c :: cs = x ++ rest ∧ Lexeme l x k rest := by
  rcases class_cases c with hg | rfl | hd | hw | rfl | hf
  · simp [hc] at hg
  · exact ⟨_, _, cs, rfl, .newline⟩
  · obtain ⟨xs, rest, rfl, hx, hr⟩ := exists_run isDigit cs
    exact ⟨c :: xs, _, rest, rfl, .integer hd hx hr⟩
  · obtain ⟨xs, rest, rfl, hx, hr⟩ := exists_run isWordPart cs
    exact ⟨c :: xs, _, rest, rfl, .word hw hx hr⟩
  · obtain ⟨xs, rest, rfl, hx, hr⟩ := exists_run (· != quoteMark) cs
    have hb : quoteMark ∉ xs := fun hm => by simpa using hx _ hm
    cases rest with
    | nil => exact ⟨_, _, [], by simp, .openText hb⟩
    | cons d rest =>
      obtain rfl : d = quoteMark := by simpa using hr
      exact ⟨_, _, rest, by simp, .text hb⟩
  · cases hs : l.symbol? c with
    | some k => exact ⟨[c], k, cs, rfl, .symbol hs⟩
    | none => exact ⟨[c], .illegal, cs, rfl, .stray hf hs⟩

/-- Apart from the line feed, a lexeme is of a kind that a symbol or a word can have, or of one of
the three that the scanner gives by itself. -/
theorem kind_cases (hl : l.Sound) (h : Lexeme l x k r) :
    x = ['\n'] ∧ k = .newline ∨ k.isSymbol = true ∨ k.isWord = true ∨
      k = .integer ∨ k = .text ∨ k = .illegal := by
  cases h with
  | newline => simp
  | symbol hs => simp [(hl.symbol hs).2]
  | word => simp [hl.isWord_wordKind]
  | integer | text | openText | stray => simp

theorem kind_ne_endOfInput (hl : l.Sound) (h : Lexeme l x k r) : k ≠ .endOfInput := by
  rintro rfl
  rcases h.kind_cases hl with ⟨-, hk⟩ | hk | hk | hk | hk | hk <;> exact absurd hk (by decide)

/-- The kind of a line feed is given to nothing else. -/
theorem kind_eq_newline_iff (hl : l.Sound) (h : Lexeme l x k r) : k = .newline ↔ x = ['\n'] := by
  constructor
  · rintro rfl
    rcases h.kind_cases hl with ⟨hx, -⟩ | hk | hk | hk | hk | hk
    · exact hx
    all_goals exact absurd hk (by decide)
  · rintro rfl
    exact (h.unique hl .newline rfl).2.1

/-- A lexeme that begins with a quote mark is a string. -/
theorem string_cases (hl : l.Sound) (h : Lexeme l x k r) (hq : x.head? = some quoteMark) :
    ∃ body, quoteMark ∉ body ∧ (x = quoteMark :: (body ++ [quoteMark]) ∧ k = .text ∨
      x = quoteMark :: body ∧ k = .illegal ∧ r = []) := by
  obtain ⟨c, cs, o, rfl, ho, hc⟩ := h.completes hl
  obtain rfl : c = quoteMark := by simpa using hq
  obtain rfl : o = .text := by simpa [Lexicon.opening?_quoteMark hl] using ho.symm
  rcases hc with ⟨body, hb, rfl, rfl⟩ | ⟨hb, rfl, rfl⟩
  · exact ⟨body, hb, .inl ⟨rfl, rfl⟩⟩
  · exact ⟨cs, hb, .inr ⟨rfl, rfl, rfl⟩⟩

/-- A lexeme other than a string has neither quote marks nor gaps in it. -/
theorem plain_of_head?_ne (hl : l.Sound) (h : Lexeme l x k r) (hq : x.head? ≠ some quoteMark) :
    ∀ c ∈ x, c ≠ quoteMark ∧ isGap c = false := by
  have hfree {c : Char} (hc : Lexicon.isFree c = true) : c ≠ quoteMark ∧ isGap c = false := by
    obtain ⟨hb, -, -, hc⟩ := Lexicon.isFree_iff.mp hc
    exact ⟨hc, by simp [isGap, hb]⟩
  have hpart {c : Char} (hc : isWordPart c = true) : c ≠ quoteMark ∧ isGap c = false := by
    refine ⟨?_, by simp [isGap, isBlank_eq_false_of_isWordPart hc]⟩
    rintro rfl
    simp [isWordPart_quoteMark] at hc
  cases h with
  | newline => simp [isGap, quoteMark]
  | symbol hs => simpa using hfree (hl.symbol hs).1
  | integer hc hcs =>
    rw [List.forall_mem_cons]
    exact ⟨hpart (isWordPart_of_isDigit hc), fun d hd => hpart (isWordPart_of_isDigit (hcs d hd))⟩
  | word hc hcs =>
    rw [List.forall_mem_cons]
    exact ⟨hpart (isWordPart_of_isWordStart hc), fun d hd => hpart (hcs d hd)⟩
  | text | openText => exact absurd rfl hq
  | stray hc => simpa using hfree hc

/-- Other characters may follow a lexeme as long as they do not go on with it. -/
theorem of_follow (hl : l.Sound) (h : Lexeme l x k r)
    (hi : k = .integer → Ends isDigit r → Ends isDigit s)
    (hw : k.isWord = true → Ends isWordPart r → Ends isWordPart s)
    (ho : k = .illegal → x.head? = some quoteMark → r = [] → s = []) : Lexeme l x k s := by
  cases h with
  | newline => exact .newline
  | symbol hs => exact .symbol hs
  | integer hc hcs hr => exact .integer hc hcs (hi rfl hr)
  | word hc hcs hr => exact .word hc hcs (hw (hl.isWord_wordKind _) hr)
  | text hb => exact .text hb
  | openText hb =>
    rw [ho rfl rfl rfl]
    exact .openText hb
  | stray hc hs => exact .stray hc hs

end Lexeme
end LuScan
