import LuScan.Lexicon.Basic
import LuScan.Scan.Head
import LuScan.Token.Basic

/-!
Scanners: tokens of a byte stream under a lexicon. `scan` gives one token a call for ever, `pull`
gives them up to the end of input or the first error and then nothing more.
-/
namespace LuScan

namespace Head

/-- The kind and literal of the token that a character opens, which was read last. A number or a
word is read again from its first character on. -/
def lexeme (lexicon : Lexicon) (c : Char) (h : Head) :
    Lexicon.Opening → Except ScanError (Kind × String) × Head
  | .newline => (.ok (.newline, Token.newlineMarker), h.advance c)
  | .symbol kind => (.ok (kind, String.singleton c), h.advance c)
  | .digits =>
    let r := h.rerun isDigit
    (r.1.map fun cs => (.integer, String.ofList cs), r.2)
  | .word =>
    let r := h.rerun isWordPart
    (r.1.map fun cs => (lexicon.wordKind (String.ofList cs), String.ofList cs), r.2)
  | .text =>
    let r := (h.advance c).quoted [c]
    (r.1.map fun (cs, closed) => (if closed then .text else .illegal, String.ofList cs), r.2)
  | .stray => (.ok (.illegal, String.singleton c), h.advance c)

/-- The next token. Blanks before it are passed, and its position is that of its first character. -/
def scan (lexicon : Lexicon) (source : String) (h : Head) : Except ScanError Token × Head :=
  match _ : h.read with
  | (.error e, t) => (.error e, t)
  | (.ok none, t) => (.ok ⟨source, h.pos, .endOfInput, ""⟩, t)
  | (.ok (some c), t) =>
    match lexicon.opening? c with
    | none => scan lexicon source (t.advance c)
    | some opening =>
      let r := t.lexeme lexicon c opening
      (r.1.map fun (kind, literal) => ⟨source, h.pos, kind, literal⟩, r.2)
termination_by h.size
decreasing_by exact size_advance_lt_of_read ‹_›

variable {lexicon : Lexicon} {h t : Head} {c : Char} {opening : Lexicon.Opening}

theorem lexeme_digits (hr : h.read = (.ok (some c), t)) (hc : isDigit c = true) :
    t.lexeme lexicon c .digits =
      (((t.advance c).run isDigit [c]).1.map fun cs => (.integer, String.ofList cs),
        ((t.advance c).run isDigit [c]).2) := by
  rw [lexeme, rerun_of_read hr hc]

theorem lexeme_word (hr : h.read = (.ok (some c), t)) (hc : isWordStart c = true) :
    t.lexeme lexicon c .word =
      (((t.advance c).run isWordPart [c]).1.map fun cs =>
          (lexicon.wordKind (String.ofList cs), String.ofList cs),
        ((t.advance c).run isWordPart [c]).2) := by
  rw [lexeme, rerun_of_read hr (isWordPart_of_isWordStart hc)]

/-- The opening character is passed, though it may be pushed back on the way. -/
theorem size_lexeme_lt (hr : h.read = (.ok (some c), t)) (ho : lexicon.opening? c = some opening) :
    (t.lexeme lexicon c opening).2.size < h.size := by
  have hpassed := size_advance_lt_of_read hr
  cases opening with
  | digits =>
    rw [lexeme_digits hr (Lexicon.isDigit_of_opening? ho)]
    exact Nat.lt_of_le_of_lt (size_run_le ..) hpassed
  | word =>
    rw [lexeme_word hr (Lexicon.isWordStart_of_opening? ho)]
    exact Nat.lt_of_le_of_lt (size_run_le ..) hpassed
  | text => exact Nat.lt_of_le_of_lt (size_quoted_le ..) hpassed
  | newline | symbol | stray => exact hpassed

/-- A token other than the end of input takes at least a character. -/
theorem size_scan_lt {source : String} {token : Token}
    (hs : h.scan lexicon source = (.ok token, t)) (hk : token.kind ≠ .endOfInput) :
    t.size < h.size := by
  fun_induction scan lexicon source h with
  | case1 => cases hs
  | case2 => cases hs; exact absurd rfl hk
  | case3 h c u hr ho ih => exact Nat.lt_trans (ih hs) (size_advance_lt_of_read hr)
  | case4 h c u hr opening ho r =>
    obtain rfl : r.2 = t := congrArg Prod.snd hs
    exact size_lexeme_lt hr ho

end Head

structure Scanner where
  source : String
  lexicon : Lexicon
  head : Head
  /-- Nothing more will be pulled. -/
  done : Bool := false
  deriving DecidableEq, Repr

/-- The last result that is pulled: an error or the end of input. -/
def isFinal : Except ScanError Token → Bool
  | .ok token => token.kind == .endOfInput
  | .error _ => true

namespace Scanner

def ofStream (source : String) (lexicon : Lexicon) (stream : ByteStream) : Scanner where
  source := source
  lexicon := lexicon
  head := { reader := .ofStream stream }

/-- The next token, whatever came before. -/
def scan (s : Scanner) : Except ScanError Token × Scanner :=
  let r := s.head.scan s.lexicon s.source
  (r.1, { s with head := r.2 })

/-- The next token, or nothing once the end of input or an error was pulled. -/
def pull (s : Scanner) : Option (Except ScanError Token) × Scanner :=
  if s.done then (none, s)
  else
    let r := s.scan
    (some r.1, { r.2 with done := isFinal r.1 })

/-- A bound for the results still to be pulled. -/
def remaining (s : Scanner) : Nat := if s.done then 0 else s.head.size + 1

theorem remaining_pull_lt {s t : Scanner} {r : Except ScanError Token}
    (hp : s.pull = (some r, t)) : t.remaining < s.remaining := by
  unfold pull at hp
  split at hp
  · cases hp
  next hd =>
    simp only [Prod.mk.injEq, Option.some.injEq] at hp
    obtain ⟨rfl, rfl⟩ := hp
    simp only [remaining, hd, scan]
    split
    · simp
    next hf =>
      cases hr : s.head.scan s.lexicon s.source with
      | mk r t =>
        rw [hr] at hf
        cases r with
        | error e => exact absurd rfl hf
        | ok token =>
          have := Head.size_scan_lt hr (by simpa [isFinal] using hf)
          simp; omega

/-- Pulls to the end. The results come after those of `acc`, which is in reverse. -/
def drainFrom (acc : List (Except ScanError Token)) (s : Scanner) :
    List (Except ScanError Token) × Scanner :=
  match _ : s.pull with
  | (none, t) => (acc.reverse, t)
  | (some r, t) => drainFrom (r :: acc) t
termination_by s.remaining
decreasing_by exact remaining_pull_lt ‹_›

/-- All that can still be pulled. -/
def drain (s : Scanner) : List (Except ScanError Token) × Scanner := s.drainFrom []

/-- The tokens through the end of input, or the error before it. -/
def tokens (s : Scanner) : Except ScanError (List Token) := s.drain.1.mapM id

end Scanner

/-- The tokens of a text under the standard lexicon. -/
def scanText (source text : String) : Except ScanError (List Token) :=
  (Scanner.ofStream source .standard (.ofText text)).tokens

end LuScan
