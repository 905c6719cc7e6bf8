import LuScan.Proofs.Scan.Delivered
import Mathlib.Data.List.Forall2

/-!
Scans of one stream under two lexicons. They take the same characters and fail in the same places;
all that a lexicon decides is of which kinds words and free characters are.
-/
namespace LuScan

/-- The kind of a free character that was scanned. -/
def Lexicon.symbolKind (l : Lexicon) (c : Char) : Kind := (l.symbol? c).getD .illegal

theorem Lexicon.Sound.symbolKind_ne {l : Lexicon} (hl : l.Sound) (c : Char) :
    l.symbolKind c ≠ .newline ∧ l.symbolKind c ≠ .endOfInput := by
  unfold symbolKind
  cases hs : l.symbol? c with
  | none => exact ⟨Kind.noConfusion, Kind.noConfusion⟩
  | some k =>
    have hk := (hl.symbol hs).2
    rw [Option.getD_some]
    exact ⟨Kind.ne_of_isSymbol hk rfl, Kind.ne_of_isSymbol hk rfl⟩

/-- Tokens that differ at most in what two lexicons say of the same word or free character. -/
structure Token.Agree (l₁ l₂ : Lexicon) (t u : Token) : Prop where
  source_eq : t.source = u.source
  pos_eq : t.pos = u.pos
  literal_eq : t.literal = u.literal
  word : isIdentifier t.literal = true →
    t.kind = (l₁.keyword? t.literal).getD .identifier ∧
      u.kind = (l₂.keyword? t.literal).getD .identifier
  symbol : ∀ c, t.literal = String.singleton c → Lexicon.isFree c = true →
    t.kind = (l₁.symbol? c).getD .illegal ∧ u.kind = (l₂.symbol? c).getD .illegal
  other : isIdentifier t.literal = false →
    (∀ c, t.literal = String.singleton c → Lexicon.isFree c = false) → t.kind = u.kind

/-- Results that are the same error, or tokens that agree. -/
inductive Agree (l₁ l₂ : Lexicon) : Except ScanError Token → Except ScanError Token → Prop
  | error (e : ScanError) : Agree l₁ l₂ (.error e) (.error e)
  | token {t u : Token} : t.Agree l₁ l₂ u → Agree l₁ l₂ (.ok t) (.ok u)

theorem isIdentifier_ofList_cons (c : Char) (cs : List Char) :
    isIdentifier (String.ofList (c :: cs)) = (isWordStart c && cs.all isWordPart) := by
  simp [isIdentifier]

theorem eq_of_ofList_cons_eq_singleton {c d : Char} {cs : List Char}
    (h : String.ofList (c :: cs) = String.singleton d) : d = c := by
  have hlist := congrArg String.toList h
  simp at hlist
  exact hlist.1.symm

theorem isFree_eq_false_of_isWordStart {c : Char} (h : isWordStart c = true) :
    Lexicon.isFree c = false := by simp [Lexicon.isFree, h]

theorem isFree_eq_false_of_isDigit {c : Char} (h : isDigit c = true) :
    Lexicon.isFree c = false := by simp [Lexicon.isFree, h]

namespace Token.Agree

variable {l₁ l₂ : Lexicon} {c : Char} {cs : List Char} (source : String) (p : Position)

theorem of_word (hc : isWordStart c = true) (hcs : ∀ d ∈ cs, isWordPart d = true) :
    Token.Agree l₁ l₂
      ⟨source, p, l₁.wordKind (String.ofList (c :: cs)), String.ofList (c :: cs)⟩
      ⟨source, p, l₂.wordKind (String.ofList (c :: cs)), String.ofList (c :: cs)⟩ where
  source_eq := rfl
  pos_eq := rfl
  literal_eq := rfl
  word _ := ⟨rfl, rfl⟩
  symbol d hd hfree := by
    rw [eq_of_ofList_cons_eq_singleton hd, isFree_eq_false_of_isWordStart hc] at hfree
    cases hfree
  other h _ := by
    have hall : cs.all isWordPart = true := List.all_eq_true.mpr hcs
    rw [isIdentifier_ofList_cons, hc, hall] at h
    cases h

theorem of_isFree (hc : Lexicon.isFree c = true) :
    Token.Agree l₁ l₂ ⟨source, p, l₁.symbolKind c, String.singleton c⟩
      ⟨source, p, l₂.symbolKind c, String.singleton c⟩ where
  source_eq := rfl
  pos_eq := rfl
  literal_eq := rfl
  word h := by
    rw [String.singleton_eq_ofList, isIdentifier_ofList_cons,
      (Lexicon.isFree_iff.mp hc).2.1] at h
    cases h
  symbol d hd _ := by
    obtain rfl := eq_of_ofList_cons_eq_singleton (String.singleton_eq_ofList.symm.trans hd)
    exact ⟨rfl, rfl⟩
  other _ h := by simp [h c rfl] at hc

/-- A token of which the lexicons say nothing agrees with itself. -/
theorem refl {t : Token} (hw : isIdentifier t.literal = false)
    (hs : ∀ d, t.literal = String.singleton d → Lexicon.isFree d = false) :
    Token.Agree l₁ l₂ t t where
  source_eq := rfl
  pos_eq := rfl
  literal_eq := rfl
  word h := by simp [hw] at h
  symbol d hd h := by simp [hs d hd] at h
  other _ _ := rfl

theorem of_length {t : Token} (hw : isIdentifier t.literal = false) (hn : t.literal.length ≠ 1) :
    Token.Agree l₁ l₂ t t := by
  refine .refl hw fun d hd => ?_
  rw [hd, String.length_singleton] at hn
  exact absurd rfl hn

/-- So does one whose first character is neither a word start nor free. -/
theorem of_head (k : Kind) (hc : isWordStart c = false) (hf : Lexicon.isFree c = false) :
    Token.Agree l₁ l₂ ⟨source, p, k, String.ofList (c :: cs)⟩
      ⟨source, p, k, String.ofList (c :: cs)⟩ := by
  refine .refl ?_ fun d hd => ?_
  · rw [isIdentifier_ofList_cons, hc, Bool.false_and]
  · rw [eq_of_ofList_cons_eq_singleton hd, hf]

end Token.Agree

/-- Other characters than the free ones open the same under all lexicons. -/
theorem Lexicon.opening?_eq_of_not_isFree {l₁ l₂ : Lexicon} (hl₁ : l₁.Sound) (hl₂ : l₂.Sound)
    {c : Char} (hc : isFree c = false) : l₁.opening? c = l₂.opening? c := by
  simp [opening?, hl₁.symbol?_eq_none hc, hl₂.symbol?_eq_none hc]

theorem Lexicon.opening?_ne_none_of_isFree {l : Lexicon} (hl : l.Sound) {c : Char}
    (hc : isFree c = true) : l.opening? c ≠ none := by
  cases hs : l.symbol? c with
  | some k => simp [opening?_of_symbol hl hs]
  | none => simp [opening?_of_isFree hc hs]

/-- What passes for a blank does so under all lexicons. -/
theorem Lexicon.opening?_eq_none {l₁ l₂ : Lexicon} (hl₁ : l₁.Sound) (hl₂ : l₂.Sound) {c : Char}
    (ho : l₁.opening? c = none) : l₂.opening? c = none := by
  have hc : isFree c = false := by
    rw [Bool.eq_false_iff]
    intro hc
    exact opening?_ne_none_of_isFree hl₁ hc ho
  rw [← opening?_eq_of_not_isFree hl₁ hl₂ hc, ho]

theorem Agree.map_map {l₁ l₂ : Lexicon} {α β : Type} {r : Except ScanError α} {f₁ f₂ : α → β}
    {g : β → Token} (h : ∀ a, r = .ok a → (g (f₁ a)).Agree l₁ l₂ (g (f₂ a))) :
    Agree l₁ l₂ ((r.map f₁).map g) ((r.map f₂).map g) := by
  cases r with
  | error e => exact .error e
  | ok a => exact .token (h a rfl)

namespace Head

variable {l l₁ l₂ : Lexicon} {c : Char} {h t : Head}

/-- A symbol and a stray character are taken alike. -/
theorem lexeme_of_isFree (hl : l.Sound) {o : Lexicon.Opening} (hc : Lexicon.isFree c = true)
    (ho : l.opening? c = some o) (h : Head) :
    h.lexeme l c o = (.ok (l.symbolKind c, String.singleton c), h.advance c) := by
  cases hs : l.symbol? c with
  | some k =>
    cases (Lexicon.opening?_of_symbol hl hs).symm.trans ho
    simp [lexeme, Lexicon.symbolKind, hs]
  | none =>
    cases (Lexicon.opening?_of_isFree hc hs).symm.trans ho
    simp [lexeme, Lexicon.symbolKind, hs]

theorem exists_of_run {accept : Char → Bool} {acc cs : List Char} {h : Head}
    (hr : (h.run accept acc).1 = .ok cs) :
    ∃ xs, cs = acc.reverse ++ xs ∧ ∀ x ∈ xs, accept x = true := by
  fun_induction run accept acc h with
  | case1 | case5 => cases hr
  | case2 | case4 =>
    cases hr
    exact ⟨[], by simp, by simp⟩
  | case3 acc h c u hread hc ih =>
    obtain ⟨xs, rfl, hx⟩ := ih hr
    refine ⟨c :: xs, by simp, ?_⟩
    rw [List.forall_mem_cons]
    exact ⟨hc, hx⟩

theorem exists_of_rerun {accept : Char → Bool} {cs : List Char}
    (hr : h.read = (.ok (some c), t)) (hc : accept c = true)
    (hcs : (t.rerun accept).1 = .ok cs) :
    ∃ xs, cs = c :: xs ∧ ∀ x ∈ xs, accept x = true := by
  rw [rerun_of_read hr hc] at hcs
  exact exists_of_run hcs

theorem exists_of_quoted {acc cs : List Char} {closed : Bool} {h : Head}
    (hr : (h.quoted acc).1 = .ok (cs, closed)) : ∃ xs, cs = acc.reverse ++ xs := by
  fun_induction quoted acc h with
  | case1 => cases hr
  | case2 =>
    cases hr
    exact ⟨[], by simp⟩
  | case3 =>
    cases hr
    exact ⟨[quoteMark], by simp⟩
  | case4 acc h c u hread hc ih =>
    obtain ⟨xs, rfl⟩ := ih hr
    exact ⟨c :: xs, by simp⟩

/-- From the same opening character, two lexicons make tokens that agree of the same characters. -/
theorem lexeme_agree (hl₁ : l₁.Sound) (hl₂ : l₂.Sound) {o₁ o₂ : Lexicon.Opening}
    (hr : h.read = (.ok (some c), t)) (ho₁ : l₁.opening? c = some o₁)
    (ho₂ : l₂.opening? c = some o₂) (source : String) (p : Position) :
    (t.lexeme l₁ c o₁).2 = (t.lexeme l₂ c o₂).2 ∧
      Agree l₁ l₂ ((t.lexeme l₁ c o₁).1.map fun r => ⟨source, p, r.1, r.2⟩)
        ((t.lexeme l₂ c o₂).1.map fun r => ⟨source, p, r.1, r.2⟩) := by
  rcases class_cases c with hc | rfl | hc | hc | rfl | hc
  · simp [Lexicon.opening?_of_isGap hl₁ hc] at ho₁
  · cases ho₁
    cases ho₂
    have hmark : isIdentifier Token.newlineMarker = false ∧ Token.newlineMarker.length ≠ 1 := by
      decide +kernel
    exact ⟨rfl, .token (.of_length hmark.1 hmark.2)⟩
  · cases (Lexicon.opening?_of_isDigit hl₁ hc).symm.trans ho₁
    cases (Lexicon.opening?_of_isDigit hl₂ hc).symm.trans ho₂
    refine ⟨rfl, .map_map fun cs hcs => ?_⟩
    obtain ⟨xs, rfl, -⟩ := exists_of_rerun hr hc hcs
    exact .of_head _ _ _ (isWordStart_eq_false_of_isDigit hc) (isFree_eq_false_of_isDigit hc)
  · cases (Lexicon.opening?_of_isWordStart hl₁ hc).symm.trans ho₁
    cases (Lexicon.opening?_of_isWordStart hl₂ hc).symm.trans ho₂
    refine ⟨rfl, .map_map fun cs hcs => ?_⟩
    obtain ⟨xs, rfl, hx⟩ := exists_of_rerun hr (isWordPart_of_isWordStart hc) hcs
    exact .of_word _ _ hc hx
  · cases (Lexicon.opening?_quoteMark hl₁).symm.trans ho₁
    cases (Lexicon.opening?_quoteMark hl₂).symm.trans ho₂
    refine ⟨rfl, .map_map fun ⟨cs, closed⟩ hcs => ?_⟩
    obtain ⟨xs, rfl⟩ := exists_of_quoted hcs
    exact .of_head _ _ _ (by decide +kernel) (by decide +kernel)
  · rw [lexeme_of_isFree hl₁ hc ho₁, lexeme_of_isFree hl₂ hc ho₂]
    exact ⟨rfl, .token (.of_isFree _ _ hc)⟩

/-- Two lexicons leave the head in the same state, with results that agree. -/
theorem scan_agree (hl₁ : l₁.Sound) (hl₂ : l₂.Sound) (source : String) (h : Head) :
    (h.scan l₁ source).2 = (h.scan l₂ source).2 ∧
      Agree l₁ l₂ (h.scan l₁ source).1 (h.scan l₂ source).1 := by
  fun_induction scan l₁ source h with
  | case1 h e t hr =>
    rw [scan_error hr]
    exact ⟨rfl, .error e⟩
  | case2 h t hr =>
    rw [scan_stop (e := none) hr]
    have hempty : isIdentifier "" = false ∧ "".length ≠ 1 := by decide +kernel
    exact ⟨rfl, .token (.of_length hempty.1 hempty.2)⟩
  | case3 h c t hr ho ih =>
    rw [scan_blank hr (Lexicon.opening?_eq_none hl₁ hl₂ ho)]
    exact ih
  | case4 h c t hr o ho r =>
    cases ho₂ : l₂.opening? c with
    | none => cases (Lexicon.opening?_eq_none hl₂ hl₁ ho₂).symm.trans ho
    | some o₂ =>
      rw [scan_opening hr ho₂]
      exact lexeme_agree hl₁ hl₂ hr ho ho₂ source h.pos

end Head

/-- The results of the next `n` scans. -/
def Scanner.scans : Nat → Scanner → List (Except ScanError Token)
  | 0, _ => []
  | n + 1, s => s.scan.1 :: scans n s.scan.2

/-- Two scanners of one head give results that agree for ever. -/
theorem Scanner.forall₂_scans_of_head_eq {s t : Scanner} (hs : s.lexicon.Sound)
    (ht : t.lexicon.Sound) (hsource : s.source = t.source) (hhead : s.head = t.head) (n : Nat) :
    List.Forall₂ (Agree s.lexicon t.lexicon) (s.scans n) (t.scans n) := by
  induction n generalizing s t with
  | zero => exact .nil
  | succ n ih =>
    obtain ⟨hnext, hagree⟩ := Head.scan_agree hs ht t.source t.head
    refine .cons ?_ (ih (s := s.scan.2) (t := t.scan.2) hs ht hsource ?_)
    · simpa only [scan, hsource, hhead] using hagree
    · simpa only [scan, hsource, hhead] using hnext

/-- Whatever the stream does, two lexicons give results that agree call by call. -/
theorem forall₂_agree_scans {l₁ l₂ : Lexicon} (hl₁ : l₁.Reachable) (hl₂ : l₂.Reachable)
    (source : String) (stream : ByteStream) (n : Nat) :
    List.Forall₂ (Agree l₁ l₂) ((Scanner.ofStream source l₁ stream).scans n)
      ((Scanner.ofStream source l₂ stream).scans n) :=
  Scanner.forall₂_scans_of_head_eq (s := .ofStream source l₁ stream)
    (t := .ofStream source l₂ stream) hl₁.sound hl₂.sound rfl rfl n

/-- The bytes of a keyword and a symbol, cut by an interruption and followed by a failure. -/
theorem forall₂_agree_scans_of_broken_stream :
    Lexicon.empty.Reachable ∧ Lexicon.standard.Reachable ∧
      ∃ stream : ByteStream, stream = [.bytes [105], .interrupted, .bytes [102, 59],
          .failed ⟨.other, "gone"⟩, .endReport, .bytes [255]] ∧
        List.Forall₂ (Agree .empty .standard) ((Scanner.ofStream "m" .empty stream).scans 5)
          ((Scanner.ofStream "m" .standard stream).scans 5) ∧
        (Scanner.ofStream "m" .empty stream).scans 5 =
          [.ok ⟨"m", ⟨1, 0⟩, .identifier, "if"⟩, .ok ⟨"m", ⟨1, 2⟩, .illegal, ";"⟩,
            .error ⟨.stream (.failed ⟨.other, "gone"⟩), ⟨1, 3⟩⟩,
            .ok ⟨"m", ⟨1, 3⟩, .endOfInput, ""⟩, .error ⟨.stream .invalidLead, ⟨1, 3⟩⟩] ∧
        (Scanner.ofStream "m" .standard stream).scans 5 =
          [.ok ⟨"m", ⟨1, 0⟩, .ifWord, "if"⟩, .ok ⟨"m", ⟨1, 2⟩, .semicolon, ";"⟩,
            .error ⟨.stream (.failed ⟨.other, "gone"⟩), ⟨1, 3⟩⟩,
            .ok ⟨"m", ⟨1, 3⟩, .endOfInput, ""⟩, .error ⟨.stream .invalidLead, ⟨1, 3⟩⟩] :=
  ⟨.empty, .standard, _, rfl, forall₂_agree_scans .empty .standard "m" _ 5, by decide +kernel,
    by decide +kernel⟩

end LuScan
