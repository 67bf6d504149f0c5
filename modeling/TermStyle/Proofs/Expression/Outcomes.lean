/-
# What palettes tell apart

Two expressions come to the same under a palette if they have the same parameters, or both fail with the
same token (`SameOutcome`).  That is a statement about their tokens alone.

A palette can have any words for names, and give one of them a parameter while all others are switched off
(`probe`).  Between two such palettes, which differ in the value of this one name, the number of parameters
differs by the number of times that the name is a token, unless it is a keyword, which a palette cannot
change.  So expressions that come to the same under every palette have the same tokens but for keywords and
order (`perm_unreserved_of_sameOutcome`).
-/

import TermStyle.Proofs.Expression.Tokens
import TermStyle.Proofs.Palette.Sound

namespace TermStyle
namespace Expression

/-- Whether two expressions come to the same under a palette: to the same parameters, or both to a failure
with the same token. -/
def SameOutcome (palette : Palette) (x y : Text) : Prop :=
  (resolveParams Attribute.table palette x).mapError Unresolvable.token =
    (resolveParams Attribute.table palette y).mapError Unresolvable.token

/-- **What an expression comes to is decided by its tokens.** -/
theorem mapError_resolveParams (palette : Palette) (x : Text) :
    (resolveParams Attribute.table palette x).mapError Unresolvable.token =
      resolveTokens Attribute.table palette (tokens x) := by
  unfold resolveParams
  cases resolveTokens Attribute.table palette (tokens x) <;> rfl

theorem sameOutcome_iff {palette : Palette} {x y : Text} :
    SameOutcome palette x y ↔
      resolveTokens Attribute.table palette (tokens x) = resolveTokens Attribute.table palette (tokens y) := by
  rw [SameOutcome, mapError_resolveParams, mapError_resolveParams]

/-- Expressions with one normal form come to the same. -/
theorem sameOutcome_of_normalize {x y : Text} (h : normalize x = normalize y) (palette : Palette) :
    SameOutcome palette x y := by
  rw [sameOutcome_iff, tokens, tokens, h]

/-- The palette with some names, all of them switched off but for one, which has a value. -/
def probe (name value : Text) (names : List Text) : Palette :=
  names.foldr (fun n p => p.put n (if n = name then value else [])) []

section Probe

variable {name value : Text} {names : List Text}

theorem get?_probe {token : Text} (h : token ∈ names) :
    (probe name value names).get? token = some (if token = name then value else []) := by
  induction names with
  | nil => exact absurd h List.not_mem_nil
  | cons n more ih =>
    by_cases hsame : n = token
    · subst hsame
      exact OrderedMap.get?_put_self ..
    · have hmore : token ∈ more := (List.mem_cons.1 h).resolve_left fun heq => hsame heq.symm
      exact (OrderedMap.get?_put_of_ne _ hsame _).trans (ih hmore)

theorem sound_probe (hnames : ∀ n ∈ names, Text.words n = [n])
    (hvalue : ∀ c ∈ value, Sgr.isParameterChar c = true) : (probe name value names).Sound := by
  induction names with
  | nil => exact .nil
  | cons n more ih =>
    obtain ⟨hn, hmore⟩ := List.forall_mem_cons.1 hnames
    refine (ih hmore).put hn ?_
    split
    · exact hvalue
    · exact fun _ hc => absurd hc List.not_mem_nil

/-- The parameters of a token under the palette, one or none. -/
def probed (name value : Text) (names : List Text) (token : Text) : List Text :=
  (resolveToken Attribute.table (probe name value names) token).join.toList

/-- Where all tokens are names of the palette, they resolve. -/
theorem resolveTokens_probe {ts : List Text} (h : ts ⊆ names) :
    resolveTokens Attribute.table (probe name value names) ts = .ok (ts.flatMap (probed name value names)) := by
  refine resolveTokens_eq_ok_iff.2 ⟨fun token htoken hnone => ?_, rfl⟩
  obtain ⟨habsent, -⟩ := resolveToken_eq_none_iff.1 hnone
  rw [← OrderedMap.get?_eq_none_iff, get?_probe (h htoken)] at habsent
  cases habsent

/-- To give the name a parameter makes a difference of one where the token is this name, and none
elsewhere. -/
theorem length_probed (hname : Attribute.table.get? name = none) {token : Text} (h : token ∈ names) :
    (probed name [':'] names token).length =
      (probed name [] names token).length + if token = name then 1 else 0 := by
  unfold probed resolveToken
  rw [get?_probe h, get?_probe h]
  cases hkeyword : Attribute.table.get? token with
  | some parameter =>
    have hother : token ≠ name := by
      rintro rfl
      rw [hname] at hkeyword
      cases hkeyword
    simp only [if_neg hother]
    rfl
  | none =>
    by_cases hsame : token = name
    · simp only [if_pos hsame]
      rfl
    · simp only [if_neg hsame]
      rfl

/-- So the number of parameters differs by the number of times that the name is a token. -/
theorem length_flatMap_probed (hname : Attribute.table.get? name = none) {ts : List Text} (h : ts ⊆ names) :
    (ts.flatMap (probed name [':'] names)).length =
      (ts.flatMap (probed name [] names)).length + ts.count name := by
  induction ts with
  | nil => rfl
  | cons token more ih =>
    obtain ⟨htoken, hmore⟩ := List.cons_subset.1 h
    have hhere := length_probed hname htoken
    have hlater := ih hmore
    rw [List.flatMap_cons, List.flatMap_cons, List.length_append, List.length_append, List.count_cons]
    simp only [beq_iff_eq]
    omega

end Probe

/-- A token is a word by itself. -/
theorem words_of_mem_tokens {x token : Text} (h : token ∈ tokens x) : Text.words token = [token] := by
  obtain ⟨hne, hsolid⟩ := Text.not_isBlank_of_mem_words h
  exact Text.words_of_word hne hsolid

/-- The tokens of a list that are no keywords. -/
def unreserved (ts : List Text) : List Text := ts.filter fun token => (Attribute.table.get? token).isNone

variable {x y : Text} (h : ∀ palette : Palette, palette.Sound → SameOutcome palette x y)
include h

/-- **Expressions that come to the same under every palette** have each word equally often, unless it is a
keyword. -/
theorem count_tokens_of_sameOutcome {name : Text} (hname : Attribute.table.get? name = none) :
    (tokens x).count name = (tokens y).count name := by
  let names := tokens x ++ tokens y
  have hnames : ∀ n ∈ names, Text.words n = [n] := fun n hn =>
    (List.mem_append.1 hn).elim words_of_mem_tokens words_of_mem_tokens
  have hx : tokens x ⊆ names := List.subset_append_left ..
  have hy : tokens y ⊆ names := List.subset_append_right ..
  have hsame : ∀ value : Text, (∀ c ∈ value, Sgr.isParameterChar c = true) →
      (tokens x).flatMap (probed name value names) = (tokens y).flatMap (probed name value names) := by
    intro value hvalue
    have houtcome := sameOutcome_iff.1 (h (probe name value names) (sound_probe hnames hvalue))
    rw [resolveTokens_probe hx, resolveTokens_probe hy] at houtcome
    exact Except.ok.inj houtcome
  have hsilent := congrArg List.length (hsame [] fun _ hc => absurd hc List.not_mem_nil)
  have hmarked := congrArg List.length (hsame [':'] (List.forall_mem_singleton.2 rfl))
  rw [length_flatMap_probed hname hx, length_flatMap_probed hname hy] at hmarked
  omega

/-- **Palettes tell apart what is not reserved:** expressions that come to the same under every palette have
the same tokens, but for keywords and order. -/
theorem perm_unreserved_of_sameOutcome : (unreserved (tokens x)).Perm (unreserved (tokens y)) := by
  rw [List.perm_iff_count]
  intro name
  cases hname : Attribute.table.get? name with
  | none =>
    have hcount : ∀ ts, (unreserved ts).count name = ts.count name := by
      intro ts
      refine List.count_filter ?_
      rw [hname]
      rfl
    rw [hcount, hcount, count_tokens_of_sameOutcome h hname]
  | some parameter =>
    have hnot : ∀ ts, name ∉ unreserved ts := by
      intro ts hmem
      have hfree := (List.mem_filter.1 hmem).2
      rw [hname] at hfree
      cases hfree
    rw [List.count_eq_zero_of_not_mem (hnot _), List.count_eq_zero_of_not_mem (hnot _)]

end Expression
end TermStyle
