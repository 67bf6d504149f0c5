/-
# Token by token

What an expression resolves to is put together of what its tokens resolve to, each by itself
(`resolveTokens_eq_ok_iff`).  So it resolves if every token does, and gives no parameter if none of
them has one.

A palette can only add to what resolves without it (`resolveToken_eq_none_iff`).  Some tokens mean
nothing to the attribute table and have the form of no color and of no raw parameters; these are the
names that an expression needs (`Needs`), and it resolves exactly under the palettes that have all of
them (`resolves_iff_needs`).
-/

import TermStyle.Expression.Resolve

namespace TermStyle
namespace Expression

variable {table : AttributeTable} {palette : OrderedMap Text Text}

/-- **Tokens resolve one by one:** each of them must, and the parameters are theirs, in order. -/
theorem resolveTokens_eq_ok_iff {tokens parameters : List Text} :
    resolveTokens table palette tokens = .ok parameters ↔
      (∀ token ∈ tokens, resolveToken table palette token ≠ none) ∧
        parameters = tokens.flatMap fun token => (resolveToken table palette token).join.toList := by
  induction tokens generalizing parameters with
  | nil => simp [resolveTokens, eq_comm]
  | cons token more ih =>
    simp only [resolveTokens, List.forall_mem_cons, List.flatMap_cons]
    cases htoken : resolveToken table palette token with
    | none => simp
    | some parameter =>
      cases hmore : resolveTokens table palette more with
      | error unknown =>
        have hnot : ¬ ∀ token ∈ more, resolveToken table palette token ≠ none := by
          intro hall
          have hok := ih.2 ⟨hall, rfl⟩
          rw [hmore] at hok
          cases hok
        simp [hnot]
      | ok later =>
        obtain ⟨hall, rfl⟩ := ih.1 hmore
        constructor
        · intro h
          cases h
          exact ⟨⟨Option.some_ne_none _, hall⟩, rfl⟩
        · rintro ⟨-, rfl⟩
          rfl

theorem resolveParams_eq_ok_iff {x : Text} {parameters : List Text} :
    resolveParams table palette x = .ok parameters ↔
      resolveTokens table palette (tokens x) = .ok parameters := by
  unfold resolveParams
  cases resolveTokens table palette (tokens x) <;> simp

/-- **An expression resolves exactly if each of its tokens does.** -/
theorem exists_resolve_iff {x : Text} :
    (∃ sequence, resolve palette x = .ok sequence) ↔
      ∀ token ∈ tokens x, resolveToken Attribute.table palette token ≠ none := by
  simp only [resolve_eq_ok_iff, resolveParams_eq_ok_iff, resolveTokens_eq_ok_iff]
  constructor
  · rintro ⟨_, _, ⟨hall, -⟩, -⟩
    exact hall
  · exact fun hall => ⟨_, _, ⟨hall, rfl⟩, rfl⟩

/-- Whether a token deliberately stands for no parameter: it is a reserved keyword, or a name that is
switched off in the palette. -/
def IsSilent (table : AttributeTable) (palette : OrderedMap Text Text) (token : Text) : Prop :=
  table.get? token = some none ∨ table.get? token = none ∧ palette.get? token = some []

theorem resolveToken_eq_some_none_iff {token : Text} :
    resolveToken table palette token = some none ↔ IsSilent table palette token := by
  unfold resolveToken IsSilent
  cases table.get? token with
  | some parameter => simp
  | none =>
    cases palette.get? token with
    | some value => simp
    | none =>
      dsimp only
      split
      · simp
      · split <;> simp

/-- Tokens give no parameter exactly if each is silent. -/
theorem resolveTokens_eq_nil_iff {tokens : List Text} :
    resolveTokens table palette tokens = .ok [] ↔ ∀ token ∈ tokens, IsSilent table palette token := by
  simp only [resolveTokens_eq_ok_iff, ← resolveToken_eq_some_none_iff]
  constructor
  · rintro ⟨hall, hnil⟩ token htoken
    have hnone := Option.toList_eq_nil_iff.1 (List.flatMap_eq_nil_iff.1 hnil.symm token htoken)
    obtain ⟨parameter, hparameter⟩ := Option.ne_none_iff_exists'.1 (hall token htoken)
    rw [hparameter] at hnone ⊢
    exact congrArg some hnone
  · intro h
    refine ⟨fun token htoken => ?_, (List.flatMap_eq_nil_iff.2 fun token htoken => ?_).symm⟩
    · rw [h token htoken]
      exact Option.some_ne_none none
    · rw [h token htoken]
      rfl

/-- **An expression resolves to the empty text exactly if its tokens are silent.** -/
theorem resolve_eq_nil_iff {x : Text} :
    resolve palette x = .ok [] ↔ ∀ token ∈ tokens x, IsSilent Attribute.table palette token := by
  rw [← resolveTokens_eq_nil_iff, ← resolveParams_eq_ok_iff, resolve_eq_ok_iff]
  constructor
  · rintro ⟨parameters, hparams, hnil⟩
    cases parameters with
    | nil => exact hparams
    | cons first more => cases hnil
  · exact fun hparams => ⟨[], hparams, rfl⟩

/-- A token that has no meaning is not in the palette, and has none without the palette. -/
theorem resolveToken_eq_none_iff {token : Text} :
    resolveToken table palette token = none ↔
      token ∉ palette.keys ∧ resolveToken table [] token = none := by
  rw [← OrderedMap.get?_eq_none_iff]
  unfold resolveToken
  cases table.get? token with
  | some parameter => simp
  | none =>
    cases palette.get? token with
    | some value => simp
    | none => simp [OrderedMap.get?]

/-- Whether a name is a token of an expression that nothing but a palette gives a meaning. -/
def Needs (x name : Text) : Prop := name ∈ tokens x ∧ resolveToken Attribute.table [] name = none

/-- **An expression resolves under the palettes that have the names it needs.** -/
theorem resolves_iff_needs {x : Text} :
    (∃ sequence, resolve palette x = .ok sequence) ↔ ∀ name, Needs x name → name ∈ palette.keys := by
  rw [exists_resolve_iff]
  constructor
  · intro h name hname
    exact Classical.byContradiction fun habsent =>
      h name hname.1 (resolveToken_eq_none_iff.2 ⟨habsent, hname.2⟩)
  · intro h token htoken hnone
    obtain ⟨habsent, hunknown⟩ := resolveToken_eq_none_iff.1 hnone
    exact habsent (h token ⟨htoken, hunknown⟩)

end Expression
end TermStyle
