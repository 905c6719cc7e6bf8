import LuScan.Lexicon.Basic

/-! Lexicons that can be built, and what their entries have in common. -/
namespace LuScan

/-- The kinds of words: identifiers and keywords. -/
def Kind.isWord (k : Kind) : Bool := k == .identifier || k.isKeyword

theorem Kind.ne_of_isWord {k j : Kind} (hk : k.isWord = true) (hj : j.isWord = false) : k ≠ j := by
  rintro rfl
  cases hk.symm.trans hj

theorem Kind.ne_of_isSymbol {k j : Kind} (hk : k.isSymbol = true) (hj : j.isSymbol = false) :
    k ≠ j := by
  rintro rfl
  cases hk.symm.trans hj

theorem Kind.isWord_eq_false_of_isSymbol {k : Kind} (h : k.isSymbol = true) :
    k.isWord = false := by
  revert h
  cases k <;> decide

namespace Lexicon

/-- The lexicons that come from the empty one or the standard one by entries that were accepted. -/
inductive Reachable : Lexicon → Prop
  | empty : Reachable .empty
  | standard : Reachable .standard
  | add {l m : Lexicon} {e : Entry} : Reachable l → l.add e = .ok m → Reachable m

/-- Symbols are free characters with kinds of their own, and words are identifiers. -/
structure Sound (l : Lexicon) : Prop where
  symbol : ∀ {c : Char} {k : Kind}, l.symbol? c = some k → isFree c = true ∧ k.isSymbol = true
  word : ∀ {w : String} {k : Kind}, l.keyword? w = some k →
    isIdentifier w = true ∧ k.isKeyword = true

theorem isFree_iff {c : Char} : isFree c = true ↔
    isBlank c = false ∧ isWordStart c = false ∧ isDigit c = false ∧ c ≠ quoteMark := by
  simp [isFree, and_assoc]

theorem ne_newline_of_isFree {c : Char} (h : isFree c = true) : c ≠ '\n' := by
  rintro rfl
  simp [isFree_iff, isBlank_newline] at h

theorem mem_of_lookup {α β : Type} [BEq α] [LawfulBEq α] {table : List (α × β)} {a : α} {b : β}
    (h : table.lookup a = some b) : (a, b) ∈ table := by
  obtain ⟨before, after, rfl, -⟩ := List.lookup_eq_some_iff.mp h
  simp

theorem sound_empty : empty.Sound where
  symbol h := by cases h
  word h := by cases h

theorem sound_standard : standard.Sound where
  symbol {c k} h := by
    have hall : ∀ e ∈ standard.symbols, isFree e.1 = true ∧ e.2.isSymbol = true := by
      decide +kernel
    exact hall (c, k) (mem_of_lookup h)
  word {w k} h := by
    have hall : ∀ e ∈ standard.controls ++ standard.types,
        isIdentifier e.1 = true ∧ e.2.isKeyword = true := by decide +kernel
    refine hall (w, k) (List.mem_append.mpr ?_)
    rcases Option.or_eq_some_iff.mp h with hc | ⟨-, ht⟩
    · exact .inl (mem_of_lookup hc)
    · exact .inr (mem_of_lookup ht)

theorem Sound.addSymbol {l m : Lexicon} {c : Char} {k : Kind} (hl : l.Sound)
    (h : l.addSymbol c k = .ok m) : m.Sound := by
  unfold Lexicon.addSymbol at h
  split at h
  · cases h
  next hc =>
  split at h
  · cases h
  next hk =>
  split at h
  · cases h
  · cases h
    refine ⟨fun {d j} hd => ?_, hl.word⟩
    by_cases hdc : d = c
    · subst hdc
      simp only [symbol?, List.lookup_cons_self, Option.some.injEq] at hd
      simp_all
    · have hb : (d == c) = false := beq_false_of_ne hdc
      simp only [symbol?, List.lookup_cons, hb] at hd
      exact hl.symbol hd

theorem Sound.addWord {l m : Lexicon} {table : WordTable} {w : String} {k : Kind} (hl : l.Sound)
    (h : l.addWord table w k = .ok m) : m.Sound := by
  unfold Lexicon.addWord at h
  split at h
  · cases h
  next hw =>
  split at h
  · cases h
  next hk =>
  split at h
  · cases h
  next hn =>
    cases h
    refine ⟨fun hd => hl.symbol (by simpa using hd), fun {v j} hv => ?_⟩
    rw [keyword?_insertWord hn] at hv
    split at hv
    next hvw =>
      cases hv
      subst hvw
      have hkw : k.isKeyword = true := by
        rw [Kind.isKeyword_iff]
        cases table <;> simp_all [WordTable.category]
      exact ⟨by simpa using hw, hkw⟩
    next => exact hl.word hv

/-- Every lexicon that can be built is sound. -/
theorem Reachable.sound {l : Lexicon} (h : l.Reachable) : l.Sound := by
  induction h with
  | empty => exact sound_empty
  | standard => exact sound_standard
  | @add l m e _ he ih =>
    cases e with
    | word table w k => exact ih.addWord he
    | symbol c k => exact ih.addSymbol he

theorem Sound.symbol?_eq_none {l : Lexicon} (hl : l.Sound) {c : Char} (hc : isFree c = false) :
    l.symbol? c = none := by
  cases h : l.symbol? c with
  | none => rfl
  | some k => simp [(hl.symbol h).1] at hc

/-- A scanned word is an identifier or a keyword, never of another kind. -/
theorem Sound.isWord_wordKind {l : Lexicon} (hl : l.Sound) (w : String) :
    (l.wordKind w).isWord = true := by
  unfold wordKind
  cases h : l.keyword? w with
  | none => rfl
  | some k => simp [Kind.isWord, (hl.word h).2]

end Lexicon
end LuScan
