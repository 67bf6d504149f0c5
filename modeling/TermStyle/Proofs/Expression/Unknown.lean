/-
# Tokens that mean nothing

An expression fails with a token and with itself.  The token is the first one without a meaning: those
before it have one (`resolveTokens_eq_error_iff`), so what comes after it makes no difference.

To be without a meaning is to be turned away everywhere (`resolveToken_eq_none_iff_unknown`):

| place | what is not so |
| --- | --- |
| attribute table | the token is a keyword |
| palette | the token is a name |
| true colors | the token is `fg_#` or `bg_#` with six digits |
| raw parameters | the token is `=` with parameters |
-/

import TermStyle.Proofs.Expression.Tokens

namespace TermStyle
namespace Expression

variable {table : AttributeTable} {palette : OrderedMap Text Text}

/-- Behind a token that has a meaning, tokens fail as they do alone. -/
theorem resolveTokens_cons_eq_error_iff {token unknown : Text} {parameter : Option Text} {more : List Text}
    (h : resolveToken table palette token = some parameter) :
    resolveTokens table palette (token :: more) = .error unknown ↔
      resolveTokens table palette more = .error unknown := by
  rw [resolveTokens, h]
  cases resolveTokens table palette more <;> simp

/-- **Tokens fail with the first of them that has no meaning.** -/
theorem resolveTokens_eq_error_iff {ts : List Text} {unknown : Text} :
    resolveTokens table palette ts = .error unknown ↔
      ∃ before after, ts = before ++ unknown :: after ∧
        (∀ token ∈ before, resolveToken table palette token ≠ none) ∧
          resolveToken table palette unknown = none := by
  induction ts with
  | nil => simp [resolveTokens]
  | cons token more ih =>
    cases htoken : resolveToken table palette token with
    | none =>
      rw [resolveTokens, htoken]
      constructor
      · intro h
        cases h
        exact ⟨[], more, rfl, fun _ hmem => absurd hmem List.not_mem_nil, htoken⟩
      · rintro ⟨before, after, hcut, hbefore, -⟩
        cases before with
        | nil => rw [(List.cons.inj hcut).1]
        | cons first before =>
          have hfirst := hbefore first (List.mem_cons_self ..)
          rw [← (List.cons.inj hcut).1] at hfirst
          exact absurd htoken hfirst
    | some parameter =>
      rw [resolveTokens_cons_eq_error_iff htoken, ih]
      constructor
      · rintro ⟨before, after, rfl, hbefore, hunknown⟩
        refine ⟨token :: before, after, rfl, List.forall_mem_cons.2 ⟨?_, hbefore⟩, hunknown⟩
        rw [htoken]
        exact Option.some_ne_none _
      · rintro ⟨before, after, hcut, hbefore, hunknown⟩
        cases before with
        | nil =>
          rw [← (List.cons.inj hcut).1, htoken] at hunknown
          cases hunknown
        | cons first before =>
          exact ⟨before, after, (List.cons.inj hcut).2, (List.forall_mem_cons.1 hbefore).2, hunknown⟩

theorem resolveParams_eq_error_iff {x : Text} {u : Unresolvable} :
    resolveParams table palette x = .error u ↔
      resolveTokens table palette (tokens x) = .error u.token ∧ u.expression = x := by
  unfold resolveParams
  cases resolveTokens table palette (tokens x) with
  | ok parameters => simp
  | error token =>
    constructor
    · intro h
      cases h
      exact ⟨rfl, rfl⟩
    · rintro ⟨htoken, rfl⟩
      cases htoken
      rfl

theorem resolve_eq_error_iff {x : Text} {u : Unresolvable} :
    resolve palette x = .error u ↔ resolveParams Attribute.table palette x = .error u := by
  unfold resolve
  cases resolveParams Attribute.table palette x <;> simp

/-- A token that no place gives a meaning. -/
structure Unknown (palette : OrderedMap Text Text) (token : Text) : Prop where
  /-- It is no keyword of the attribute table. -/
  keyword : token ∉ Attribute.table.keys
  /-- It is no name of the palette. -/
  name : token ∉ palette.keys
  /-- It is no true foreground color. -/
  foreground : Text.matchWhole (hexScan foregroundWord) token = none
  /-- It is no true background color. -/
  background : Text.matchWhole (hexScan backgroundHexWord) token = none
  /-- It is no raw parameters. -/
  raw : Text.matchWhole rawScan token = none

/-- **A token has no meaning exactly if it has none anywhere.** -/
theorem resolveToken_eq_none_iff_unknown {token : Text} :
    resolveToken Attribute.table palette token = none ↔ Unknown palette token := by
  constructor
  · intro h
    unfold resolveToken at h
    split at h
    · cases h
    · rename_i hkeyword
      split at h
      · cases h
      · rename_i hname
        split at h
        · cases h
        · rename_i hforeground
          split at h
          · cases h
          · rename_i hbackground
            exact ⟨OrderedMap.get?_eq_none_iff.1 hkeyword, OrderedMap.get?_eq_none_iff.1 hname, hforeground,
              hbackground, Option.map_eq_none_iff.1 h⟩
  · rintro ⟨hkeyword, hname, hforeground, hbackground, hraw⟩
    simp only [resolveToken, OrderedMap.get?_eq_none_iff.2 hkeyword, OrderedMap.get?_eq_none_iff.2 hname,
      hforeground, hbackground, hraw, Option.map_none]

/-- Whether an expression cannot be resolved because of the token that is said: one of its tokens, and
unknown. -/
def Unresolvable.Justified (palette : OrderedMap Text Text) (u : Unresolvable) : Prop :=
  u.token ∈ tokens u.expression ∧ Unknown palette u.token

/-- **An expression that does not resolve says why,** truly and about itself. -/
theorem justified_of_resolve_error {x : Text} {u : Unresolvable} (h : resolve palette x = .error u) :
    u.expression = x ∧ u.Justified palette := by
  obtain ⟨htokens, rfl⟩ := resolveParams_eq_error_iff.1 (resolve_eq_error_iff.1 h)
  obtain ⟨before, after, hcut, -, hunknown⟩ := resolveTokens_eq_error_iff.1 htokens
  refine ⟨rfl, ?_, resolveToken_eq_none_iff_unknown.1 hunknown⟩
  rw [hcut]
  exact List.mem_append_right _ (List.mem_cons_self ..)

end Expression
end TermStyle
