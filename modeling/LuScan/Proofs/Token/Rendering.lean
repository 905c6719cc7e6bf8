import LuScan.Proofs.Text.Quoted
import LuScan.Token.Basic

/-!
Rendered tokens read back. A rendered token is taken apart from its end, where the literal is
quoted, since nothing is known of the source name at its beginning.
-/
namespace LuScan

theorem Kind.space_notMem_name (k : Kind) : ' ' ∉ k.name.toList := by
  cases k <;> decide

theorem Kind.newline_notMem_name (k : Kind) : '\n' ∉ k.name.toList := by
  cases k <;> decide

namespace Token

variable {t u : Token} {ts us : List Token}

theorem toList_render (t : Token) : t.render.toList =
    (((t.source.toList ++ ':' :: Nat.toDigits 10 t.pos.line) ++
      ':' :: Nat.toDigits 10 t.pos.column) ++ ' ' :: t.kind.name.toList) ++
      ' ' :: Quoted.between '"' t.literal.toList := by
  simp [render, Position.text, Quoted.text]

/-- A rendered token is the rendering of no other token. -/
theorem eq_of_render_eq (h : t.render = u.render) : t = u := by
  have h := congrArg String.toList h
  rw [toList_render, toList_render] at h
  obtain ⟨h, hliteral⟩ := Quoted.append_between_inj (by decide) (by decide) h
  obtain ⟨h, hname⟩ :=
    append_cons_inj_last t.kind.space_notMem_name u.kind.space_notMem_name h
  have hcolon (n : Nat) : ':' ∉ Nat.toDigits 10 n :=
    notMem_toDigits (by decide) (by decide) (by decide) n
  obtain ⟨h, hcolumn⟩ := append_cons_inj_last (hcolon _) (hcolon _) h
  obtain ⟨hsource, hline⟩ := append_cons_inj_last (hcolon _) (hcolon _) h
  have hkind := Kind.name_injective (String.toList_injective hname)
  have hline := toDigits_inj (by decide) (by decide) hline
  have hcolumn := toDigits_inj (by decide) (by decide) hcolumn
  rcases t with ⟨source, ⟨line, column⟩, kind, literal⟩
  rcases u with ⟨source', ⟨line', column'⟩, kind', literal'⟩
  obtain rfl := String.toList_injective hsource
  obtain rfl := String.toList_injective hliteral
  subst hkind hline hcolumn
  rfl

theorem newline_notMem_render (ht : '\n' ∉ t.source.toList) : '\n' ∉ t.render.toList := by
  have hdigits (n : Nat) : '\n' ∉ Nat.toDigits 10 n :=
    notMem_toDigits (by decide) (by decide) (by decide) n
  have hname := t.kind.newline_notMem_name
  have hliteral := Quoted.newline_notMem_between t.literal.toList
  simp [toList_render, ht, hdigits, hname, hliteral]

theorem toList_dump_cons (t : Token) (ts : List Token) :
    (dump (t :: ts)).toList = t.render.toList ++ '\n' :: (dump ts).toList := by
  simp [dump]

theorem dump_cons_ne_nil (t : Token) (ts : List Token) : dump (t :: ts) ≠ dump [] := by
  intro h
  have h := congrArg String.toList h
  rw [toList_dump_cons] at h
  simp [dump] at h

/-- Lines end at the first line feed, as long as no source name has one. -/
theorem eq_of_dump_eq (ht : ∀ t ∈ ts, '\n' ∉ t.source.toList)
    (hu : ∀ u ∈ us, '\n' ∉ u.source.toList) (h : dump ts = dump us) : ts = us := by
  induction ts generalizing us with
  | nil =>
    cases us with
    | nil => rfl
    | cons u us => exact absurd h.symm (dump_cons_ne_nil u us)
  | cons t ts ih =>
    cases us with
    | nil => exact absurd h (dump_cons_ne_nil t ts)
    | cons u us =>
      rw [List.forall_mem_cons] at ht hu
      have h := congrArg String.toList h
      rw [toList_dump_cons, toList_dump_cons] at h
      obtain ⟨hrender, hrest⟩ := append_cons_inj_first (newline_notMem_render ht.1)
        (newline_notMem_render hu.1) h
      rw [eq_of_render_eq (String.toList_injective hrender),
        ih ht.2 hu.2 (String.toList_injective hrest)]

/-- Tokens are told apart by how they are rendered, whatever their source names are, and lists of
tokens by their dumps, as long as no source name has a line feed. -/
theorem render_and_dump_injective : (∀ t u : Token, t.render = u.render ↔ t = u) ∧
    ∀ ts us : List Token, (∀ t ∈ ts, '\n' ∉ t.source.toList) → (∀ u ∈ us, '\n' ∉ u.source.toList) →
      (dump ts = dump us ↔ ts = us) := by
  refine ⟨fun t u => ?_, fun ts us ht hu => ?_⟩
  · exact ⟨eq_of_render_eq, congrArg render⟩
  · exact ⟨eq_of_dump_eq ht hu, congrArg dump⟩

/-- A source name that looks like a rendered token, and a literal that looks like the rest of
one. -/
theorem render_and_dump_injective_of_lookalikes :
    (∀ t ∈ [Token.mk "m:1:0 \" \"x\"" ⟨1, 4⟩ .quote "\""], '\n' ∉ t.source.toList) ∧
    (∀ u ∈ [Token.mk "m" ⟨1, 0⟩ .quote "x\":1:4 \" \""], '\n' ∉ u.source.toList) ∧
    dump [⟨"m:1:0 \" \"x\"", ⟨1, 4⟩, .quote, "\""⟩] ≠
      dump [⟨"m", ⟨1, 0⟩, .quote, "x\":1:4 \" \""⟩] := by
  have ht : ∀ t ∈ [Token.mk "m:1:0 \" \"x\"" ⟨1, 4⟩ .quote "\""], '\n' ∉ t.source.toList := by
    decide
  have hu : ∀ u ∈ [Token.mk "m" ⟨1, 0⟩ .quote "x\":1:4 \" \""], '\n' ∉ u.source.toList := by
    decide
  refine ⟨ht, hu, ?_⟩
  rw [Ne, render_and_dump_injective.2 _ _ ht hu]
  decide

/-- With a line feed, a source name can hold a whole line of a dump. -/
example : dump [⟨"m", ⟨1, 0⟩, .semicolon, ";"⟩, ⟨"n", ⟨1, 1⟩, .comma, ","⟩] =
    dump [⟨"m:1:0 ; \";\"\nn", ⟨1, 1⟩, .comma, ","⟩] := by decide +kernel

end Token
end LuScan
