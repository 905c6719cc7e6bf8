import LuScan.Proofs.Lexicon.Reachable

/-!
Lexicons after any entries, accepted or refused. Of the entries for one word or symbol, the first
that is well-formed is the one that counts, unless the lexicon had one before.
-/
namespace LuScan

theorem Kind.isSymbol_iff {k : Kind} : k.isSymbol = true ↔
    (k.category = .structural ∨ k.category = .operator) ∧
      k ≠ .endOfInput ∧ k ≠ .illegal ∧ k ≠ .newline := by
  cases k <;> decide

namespace Lexicon

/-- What an entry is found by. A word has one key, whichever table it is in. -/
inductive Key where
  | word (word : String)
  | symbol (symbol : Char)
  deriving DecidableEq, Repr

namespace Entry

def key : Entry → Key
  | .word _ w _ => .word w
  | .symbol c _ => .symbol c

def kind : Entry → Kind
  | .word _ _ kind => kind
  | .symbol _ kind => kind

/-- A word of the right shape with a kind of its table, or a character that begins nothing else with
a kind that a character can have. -/
def WellFormed : Entry → Prop
  | .word table w kind => isIdentifier w = true ∧ kind.category = table.category
  | .symbol c kind =>
    (isBlank c = false ∧ isWordStart c = false ∧ isDigit c = false ∧ c ≠ quoteMark) ∧
      (kind.category = .structural ∨ kind.category = .operator) ∧
      kind ≠ .endOfInput ∧ kind ≠ .illegal ∧ kind ≠ .newline

instance (e : Entry) : Decidable e.WellFormed := by
  cases e <;> exact inferInstanceAs (Decidable (_ ∧ _))

end Entry

/-- The kind that a lexicon has for a key. -/
def kind? (l : Lexicon) : Key → Option Kind
  | .word word => l.keyword? word
  | .symbol c => l.symbol? c

/-- The lexicon with one more entry, whatever it holds already. -/
def insert (l : Lexicon) : Entry → Lexicon
  | .word table word kind => l.insertWord table word kind
  | .symbol c kind => { l with symbols := (c, kind) :: l.symbols }

/-- The lexicon after some entries, one after another. -/
def build (start : Lexicon) (entries : List Entry) : Lexicon := entries.foldl attempt start

variable {l m start : Lexicon} {e : Entry}

theorem addSymbol_eq_ok_iff {c : Char} {k : Kind} : l.addSymbol c k = .ok m ↔
    Entry.WellFormed (.symbol c k) ∧ l.symbol? c = none ∧ m = l.insert (.symbol c k) := by
  have hwell : Entry.WellFormed (.symbol c k) ↔ isFree c = true ∧ k.isSymbol = true := by
    rw [Entry.WellFormed, isFree_iff, Kind.isSymbol_iff]
  rw [addSymbol, hwell]
  cases isFree c <;> cases k.isSymbol <;> cases l.symbol? c <;> simp [insert, eq_comm]

theorem addWord_eq_ok_iff {table : WordTable} {w : String} {k : Kind} :
    l.addWord table w k = .ok m ↔ Entry.WellFormed (.word table w k) ∧ l.keyword? w = none ∧
      m = l.insert (.word table w k) := by
  rw [addWord, Entry.WellFormed]
  by_cases hk : k.category = table.category <;> cases isIdentifier w <;> cases l.keyword? w <;>
    simp [hk, insert, eq_comm]

/-- An entry is accepted exactly if it is well-formed and its key is free, and then it is made. -/
theorem add_eq_ok_iff : l.add e = .ok m ↔
    e.WellFormed ∧ l.kind? e.key = none ∧ m = l.insert e := by
  cases e with
  | word table w k => exact addWord_eq_ok_iff
  | symbol c k => exact addSymbol_eq_ok_iff

theorem attempt_of_free (hw : e.WellFormed) (hk : l.kind? e.key = none) :
    l.attempt e = l.insert e := by
  rw [attempt, add_eq_ok_iff.mpr ⟨hw, hk, rfl⟩]

theorem attempt_of_refused (h : ¬ (e.WellFormed ∧ l.kind? e.key = none)) : l.attempt e = l := by
  rw [attempt]
  split
  next hadd =>
    obtain ⟨hw, hk, -⟩ := add_eq_ok_iff.mp hadd
    exact absurd ⟨hw, hk⟩ h
  next => rfl

theorem kind?_insert (hk : l.kind? e.key = none) (key : Key) :
    (l.insert e).kind? key = if e.key = key then some e.kind else l.kind? key := by
  cases e with
  | word table w k =>
    cases key with
    | word v =>
      simp only [insert, kind?, keyword?_insertWord hk, Entry.key, Entry.kind, Key.word.injEq,
        eq_comm]
    | symbol c => simp [insert, kind?, Entry.key]
  | symbol c k =>
    cases key with
    | word v => simp [insert, kind?, Entry.key, keyword?]
    | symbol d =>
      by_cases hd : c = d
      · simp [insert, kind?, Entry.key, Entry.kind, symbol?, hd]
      · have hb : (d == c) = false := beq_false_of_ne (Ne.symm hd)
        simp [insert, kind?, Entry.key, symbol?, List.lookup_cons, hd, hb]

/-- One entry: a kind that was there stays, and a well-formed entry fills a key that was free. -/
theorem kind?_attempt (l : Lexicon) (e : Entry) (key : Key) : (l.attempt e).kind? key =
    (l.kind? key).or (if e.WellFormed ∧ e.key = key then some e.kind else none) := by
  by_cases h : e.WellFormed ∧ l.kind? e.key = none
  · rw [attempt_of_free h.1 h.2, kind?_insert h.2]
    by_cases hkey : e.key = key
    · subst hkey
      simp [h]
    · simp [hkey]
  · rw [attempt_of_refused h]
    by_cases hnew : e.WellFormed ∧ e.key = key
    · obtain ⟨hw, rfl⟩ := hnew
      obtain ⟨k, hk⟩ := Option.ne_none_iff_exists'.mp fun hnone => h ⟨hw, hnone⟩
      rw [hk, Option.some_or]
    · rw [if_neg hnew, Option.or_none]

/-- Any entries: the first well-formed one for a key fills it if it was free. -/
theorem kind?_build (start : Lexicon) (entries : List Entry) (key : Key) :
    (start.build entries).kind? key = (start.kind? key).or
      ((entries.find? fun e => e.WellFormed ∧ e.key = key).map Entry.kind) := by
  induction entries generalizing start with
  | nil => simp [build]
  | cons e entries ih =>
    have hstep : start.build (e :: entries) = (start.attempt e).build entries := rfl
    rw [hstep, ih, kind?_attempt, Option.or_assoc, List.find?_cons]
    by_cases he : e.WellFormed ∧ e.key = key
    · simp [he]
    · simp [he]

/-- The two tables hold their own categories and share no word. -/
structure Parted (l : Lexicon) : Prop where
  control : ∀ {w : String} {k : Kind}, l.controls.lookup w = some k → k.category = .control
  type : ∀ {w : String} {k : Kind}, l.types.lookup w = some k → k.category = .type
  apart : ∀ w : String, l.controls.lookup w = none ∨ l.types.lookup w = none

theorem parted_empty : empty.Parted where
  control h := by cases h
  type h := by cases h
  apart _ := .inl rfl

theorem parted_standard : standard.Parted where
  control {w k} h := by
    have hall : ∀ e ∈ standard.controls, e.2.category = .control := by decide
    exact hall (w, k) (mem_of_lookup h)
  type {w k} h := by
    have hall : ∀ e ∈ standard.types, e.2.category = .type := by decide
    exact hall (w, k) (mem_of_lookup h)
  apart w := by
    have hall : ∀ e ∈ standard.controls, ∀ f ∈ standard.types, e.1 ≠ f.1 := by decide
    cases hc : standard.controls.lookup w with
    | none => exact .inl rfl
    | some k =>
      cases ht : standard.types.lookup w with
      | none => exact .inr rfl
      | some j => exact absurd rfl (hall (w, k) (mem_of_lookup hc) (w, j) (mem_of_lookup ht))

theorem lookup_word_cons (table : List (String × Kind)) (w : String) (k : Kind) (v : String) :
    ((w, k) :: table).lookup v = if v = w then some k else table.lookup v := by
  by_cases hv : v = w
  · simp [hv]
  · simp [List.lookup_cons, hv, beq_false_of_ne hv]

theorem category_of_lookup_cons {table : List (String × Kind)} {w v : String} {k j : Kind}
    {c : Category} (htable : ∀ {v : String} {j : Kind}, table.lookup v = some j → j.category = c)
    (hk : k.category = c) (hv : ((w, k) :: table).lookup v = some j) : j.category = c := by
  rw [lookup_word_cons] at hv
  split at hv
  · cases hv
    exact hk
  · exact htable hv

theorem Parted.insert (hl : l.Parted) (hw : e.WellFormed) (hk : l.kind? e.key = none) :
    (l.insert e).Parted := by
  cases e with
  | symbol c k => exact ⟨hl.control, hl.type, hl.apart⟩
  | word table w k =>
    obtain ⟨hcontrol, htype⟩ := Option.or_eq_none_iff.mp hk
    -- The word is in neither table so far, so the other one keeps it out.
    cases table with
    | control =>
      refine ⟨category_of_lookup_cons hl.control hw.2, hl.type, fun v => ?_⟩
      by_cases hv : v = w
      · exact .inr (hv ▸ htype)
      · rw [Lexicon.insert, insertWord, lookup_word_cons, if_neg hv]
        exact hl.apart v
    | type =>
      refine ⟨hl.control, category_of_lookup_cons hl.type hw.2, fun v => ?_⟩
      by_cases hv : v = w
      · exact .inl (hv ▸ hcontrol)
      · rw [Lexicon.insert, insertWord, lookup_word_cons, if_neg hv]
        exact hl.apart v

theorem Parted.attempt (hl : l.Parted) (e : Entry) : (l.attempt e).Parted := by
  by_cases h : e.WellFormed ∧ l.kind? e.key = none
  · rw [attempt_of_free h.1 h.2]
    exact hl.insert h.1 h.2
  · rw [attempt_of_refused h]
    exact hl

theorem Parted.build (hl : l.Parted) (entries : List Entry) : (l.build entries).Parted := by
  induction entries generalizing l with
  | nil => exact hl
  | cons e entries ih => exact ih (hl.attempt e)

theorem Reachable.parted (h : l.Reachable) : l.Parted := by
  induction h with
  | empty => exact parted_empty
  | standard => exact parted_standard
  | add _ he ih =>
    obtain ⟨hw, hk, rfl⟩ := add_eq_ok_iff.mp he
    exact ih.insert hw hk

theorem Parted.isTypeWord_iff (hl : l.Parted) (w : String) :
    l.isTypeWord w = true ↔ ∃ k, l.keyword? w = some k ∧ k.category = .type := by
  rw [isTypeWord, Option.isSome_iff_exists, keyword?]
  rcases hl.apart w with hc | ht
  · rw [hc, Option.none_or]
    exact exists_congr fun k => (and_iff_left_of_imp hl.type).symm
  · rw [ht, Option.or_none]
    constructor
    · rintro ⟨k, hk⟩
      cases hk
    · rintro ⟨k, hk, hcategory⟩
      cases (hl.control hk).symm.trans hcategory

end Lexicon

/-- A lexicon as a function of the entries that were tried. One is accepted exactly if it is
well-formed, its key was not there at the start and no entry before it is well-formed and has the
same key. In the end a key has the kind that it had at the start, or else that of the first
well-formed entry for it; the words of kinds of types are the type words, and no word is in both
tables. -/
theorem build_eq_history {start : Lexicon} (hstart : start.Reachable)
    (entries : List Lexicon.Entry) :
    (∀ before e after, entries = before ++ e :: after →
      ((∃ m, (start.build before).add e = .ok m) ↔ e.WellFormed ∧ start.kind? e.key = none ∧
        ∀ d ∈ before, d.key = e.key → ¬ d.WellFormed)) ∧
    (∀ key, (start.build entries).kind? key = (start.kind? key).or
      ((entries.find? fun e => e.WellFormed ∧ e.key = key).map Lexicon.Entry.kind)) ∧
    (∀ w, (start.build entries).isTypeWord w = true ↔
      ∃ k, (start.build entries).keyword? w = some k ∧ k.category = .type) ∧
    ∀ w, (start.build entries).controls.lookup w = none ∨
      (start.build entries).types.lookup w = none := by
  have hparted := hstart.parted.build entries
  refine ⟨?_, Lexicon.kind?_build start entries, hparted.isTypeWord_iff, hparted.apart⟩
  rintro before e after -
  have hfree : (start.build before).kind? e.key = none ↔
      start.kind? e.key = none ∧ ∀ d ∈ before, d.key = e.key → ¬ d.WellFormed := by
    rw [Lexicon.kind?_build, Option.or_eq_none_iff, Option.map_eq_none_iff, List.find?_eq_none]
    simp only [decide_eq_true_eq, not_and, imp_not_comm]
  constructor
  · rintro ⟨m, hm⟩
    obtain ⟨hw, hk, -⟩ := Lexicon.add_eq_ok_iff.mp hm
    exact ⟨hw, hfree.mp hk⟩
  · rintro ⟨hw, hk⟩
    exact ⟨_, Lexicon.add_eq_ok_iff.mpr ⟨hw, hfree.mpr hk, rfl⟩⟩

/-- An entry of the wrong category leaves its word free, and the entry that takes the word keeps it
from the other table. -/
theorem build_eq_history_of_entier : Lexicon.standard.Reachable ∧
    (∃ m, (Lexicon.standard.build [.word .type "entier" .ifWord]).add
      (.word .type "entier" .intType) = .ok m) ∧
    (¬ ∃ m, (Lexicon.standard.build [.word .type "entier" .ifWord,
      .word .type "entier" .intType]).add (.word .control "entier" .ifWord) = .ok m) ∧
    (Lexicon.standard.build [.word .type "entier" .ifWord, .word .type "entier" .intType,
      .word .control "entier" .ifWord]).kind? (.word "entier") = some .intType ∧
    (Lexicon.standard.build [.word .type "entier" .ifWord, .word .type "entier" .intType,
      .word .control "entier" .ifWord]).isTypeWord "entier" = true := by
  have hwell : Lexicon.Entry.WellFormed (.word .type "entier" .intType) := by decide +kernel
  obtain ⟨hsteps, hkinds, htypes, -⟩ := build_eq_history .standard
    [.word .type "entier" .ifWord, .word .type "entier" .intType, .word .control "entier" .ifWord]
  have hkind := (hkinds (.word "entier")).trans (show _ = some Kind.intType by decide +kernel)
  refine ⟨.standard, (hsteps [_] _ [_] rfl).mpr ⟨hwell, by decide, by decide⟩, fun hm => ?_, hkind,
    (htypes "entier").mpr ⟨_, hkind, rfl⟩⟩
  exact ((hsteps [_, _] _ [] rfl).mp hm).2.2 (.word .type "entier" .intType) (by simp) rfl hwell

end LuScan
