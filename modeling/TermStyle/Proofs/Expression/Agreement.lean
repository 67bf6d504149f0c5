/-
# Palettes that agree

An expression looks up its tokens and nothing else, and in a palette only those of them that are no
keywords.  Palettes that have the same there (`AgreeOn`) give it the same outcome, whatever else they hold
(`AgreeOn.resolveParams_eq`).

| token | meaning | what another palette can change |
| --- | --- | --- |
| a keyword | the keyword's | nothing |
| a name of the palette | its value | the value, and that there is one |
| any other | its color, its raw parameters, or none | that there is a name of this form |

A palette with more names can only give a meaning to a token that had none, or another one to a token that
had one (`resolveToken_mono`).  So writing an entry makes no expression fail that resolved before.
-/

import TermStyle.Proofs.Attribute.Keywords
import TermStyle.Proofs.Expression.Tokens
import TermStyle.Proofs.Palette.Changes

namespace TermStyle
namespace Expression

variable {table : AttributeTable} {p q : Palette}

/-- Whether two palettes have the same value, or both none, under each of some tokens that is no
keyword. -/
def AgreeOn (table : AttributeTable) (ts : List Text) (p q : Palette) : Prop :=
  ∀ token ∈ ts, token ∉ table.keys → p.get? token = q.get? token

/-- A keyword is not looked up in the palette, and of any other token only its own entry counts. -/
theorem resolveToken_congr {token : Text} (h : token ∉ table.keys → p.get? token = q.get? token) :
    resolveToken table p token = resolveToken table q token := by
  unfold resolveToken
  cases hkeyword : table.get? token with
  | some parameter => rfl
  | none => rw [h (OrderedMap.get?_eq_none_iff.1 hkeyword)]

theorem AgreeOn.resolveTokens_eq {ts : List Text} (h : AgreeOn table ts p q) :
    resolveTokens table p ts = resolveTokens table q ts := by
  induction ts with
  | nil => rfl
  | cons token more ih =>
    obtain ⟨hfirst, hmore⟩ := List.forall_mem_cons.1 h
    simp only [resolveTokens, resolveToken_congr hfirst, ih hmore]

/-- **Palettes that agree on the tokens of an expression give it the same outcome.** -/
theorem AgreeOn.resolveParams_eq {x : Text} (h : AgreeOn table (tokens x) p q) :
    resolveParams table p x = resolveParams table q x := by
  unfold resolveParams
  rw [h.resolveTokens_eq]

/-- What no change is about has stayed: the palettes before and after a request agree on it. -/
theorem agreeOn_perform {ts : List Text} {request : Palette.Request}
    (h : ∀ change ∈ (p.perform request).changes, change.name ∈ ts → change.name ∈ table.keys) :
    AgreeOn table ts (p.perform request).palette p := by
  intro token htoken hkeyword
  refine p.leavesOthers_perform request token fun change hchange hname => ?_
  subst hname
  exact hkeyword (h change hchange htoken)

/-- **A token that has a meaning keeps one** where no name is lost. -/
theorem resolveToken_mono {token : Text} (hkeys : p.keys ⊆ q.keys)
    (h : resolveToken table p token ≠ none) : resolveToken table q token ≠ none := by
  intro hnone
  obtain ⟨habsent, hunknown⟩ := resolveToken_eq_none_iff.1 hnone
  exact h (resolveToken_eq_none_iff.2 ⟨fun hmem => habsent (hkeys hmem), hunknown⟩)

theorem resolveParams_mono {x : Text} {parameters : List Text} (hkeys : p.keys ⊆ q.keys)
    (h : resolveParams table p x = .ok parameters) :
    ∃ others, resolveParams table q x = .ok others := by
  obtain ⟨hall, -⟩ := resolveTokens_eq_ok_iff.1 (resolveParams_eq_ok_iff.1 h)
  exact ⟨_, resolveParams_eq_ok_iff.2 <| resolveTokens_eq_ok_iff.2
    ⟨fun token htoken => resolveToken_mono hkeys (hall token htoken), rfl⟩⟩

/-- **A palette matters to an expression only by what it has under its tokens.**  Palettes that agree on
the tokens give the same parameters, or the same failure.  After a value was written under a name, or was
refused, every expression that resolved before still does.  And a request makes no difference to an expression, unless one
of its changes is about a token of the expression that is no keyword. -/
theorem resolveParams_of_agreement (p q : Palette) (x : Text) :
    (AgreeOn Attribute.table (tokens x) p q →
      resolveParams Attribute.table p x = resolveParams Attribute.table q x) ∧
    (∀ name value parameters, resolveParams Attribute.table p x = .ok parameters →
      ∃ others, resolveParams Attribute.table (p.set name value).palette x = .ok others) ∧
    ∀ request,
      (∀ change ∈ (p.perform request).changes, change.name ∈ tokens x →
        change.name ∈ Attribute.table.keys) →
      resolveParams Attribute.table (p.perform request).palette x =
        resolveParams Attribute.table p x := by
  refine ⟨AgreeOn.resolveParams_eq, fun name value parameters hok => ?_,
    fun request hchanges => (agreeOn_perform hchanges).resolveParams_eq⟩
  have hkeys : p.keys ⊆ (p.perform (.set name value)).palette.keys := Palette.keys_subset_perform rfl
  exact resolveParams_mono hkeys hok

/-- A palette with a name that is also a keyword, and one that is not. -/
def shadowed : Palette := [("bold".toList, "31".toList), ("hot-pink".toList, "95".toList)]

/-- The same with another value under the keyword. -/
def reshadowed : Palette := [("bold".toList, "32".toList), ("hot-pink".toList, "95".toList)]

theorem get?_bold : Attribute.table.get? "bold".toList = some (some (.plain 1)) := rfl

theorem get?_hotPink : Attribute.table.get? "hot-pink".toList = none :=
  Attribute.get?_eq_none_of_hyphen (by decide) (by decide)

/-- Under a keyword a palette may hold anything, and it may as well hold nothing. -/
theorem resolveParams_of_agreement_shadowed :
    AgreeOn Attribute.table (tokens "bold hot-pink".toList) shadowed reshadowed ∧
    (shadowed.set (.text "bold".toList) (.text "32".toList)).palette = reshadowed ∧
    resolveParams Attribute.table shadowed "bold hot-pink".toList = .ok ["1".toList, "95".toList] ∧
    (∃ others, resolveParams Attribute.table reshadowed "bold hot-pink".toList = .ok others) ∧
    resolveParams Attribute.table reshadowed "bold hot-pink".toList = .ok ["1".toList, "95".toList] ∧
    (shadowed.perform (.delete (.text "bold".toList))).changes = [.removed "bold".toList] ∧
    resolveParams Attribute.table (shadowed.perform (.delete (.text "bold".toList))).palette
      "bold hot-pink".toList = .ok ["1".toList, "95".toList] := by
  have hkeyword : "bold".toList ∈ Attribute.table.keys :=
    List.mem_map_of_mem (OrderedMap.mem_of_get? get?_bold)
  have htokens : tokens "bold hot-pink".toList = ["bold".toList, "hot-pink".toList] := by decide
  have hbefore : shadowed.get? "hot-pink".toList = some "95".toList := rfl
  have hafter : reshadowed.get? "hot-pink".toList = some "95".toList := rfl
  have hagree : AgreeOn Attribute.table (tokens "bold hot-pink".toList) shadowed reshadowed := by
    rw [htokens, AgreeOn, List.forall_mem_cons, List.forall_mem_singleton]
    exact ⟨fun hno => absurd hkeyword hno, fun _ => hbefore.trans hafter.symm⟩
  have hok : resolveParams Attribute.table shadowed "bold hot-pink".toList =
      .ok ["1".toList, "95".toList] := by
    have hfirst : resolveToken Attribute.table shadowed "bold".toList = some (some "1".toList) := by
      rw [resolveToken, get?_bold]
      rfl
    have hsecond : resolveToken Attribute.table shadowed "hot-pink".toList = some (some "95".toList) := by
      rw [resolveToken, get?_hotPink, hbefore]
      rfl
    rw [resolveParams_eq_ok_iff, htokens, resolveTokens, hfirst, resolveTokens, hsecond]
    rfl
  have hset : (shadowed.set (.text "bold".toList) (.text "32".toList)).palette = reshadowed := rfl
  obtain ⟨hsame, hwritten, hasked⟩ :=
    resolveParams_of_agreement shadowed reshadowed "bold hot-pink".toList
  refine ⟨hagree, hset, hok, hset ▸ hwritten _ _ _ hok, (hsame hagree).symm.trans hok, rfl, ?_⟩
  refine (hasked _ fun change hchange _ => ?_).trans hok
  obtain rfl := List.mem_singleton.1 hchange
  exact hkeyword

end Expression
end TermStyle
