/-
# Expressions put side by side

Two expressions with a space between them resolve as each does by itself, one after the other, unless a
modifier at the seam belongs to the other side:

| at the seam | joins |
| --- | --- |
| the last word before it ends with `bright` or `bg` (`LeansForward`) | the word behind it, or the bare space |
| the first word behind it begins with `off` (`LeansBack`) | the word before it, or the bare space |

An expression is a list of words with whatever blanks between and around them, and these are the first and the
last word as they are written.  The normal form of a part does not show them, for it may have joined the blanks
at the seam: of `bright` and a space it makes `bright_`.

A text ends with a modifier exactly if its last word does, for what stands before a blank makes no difference
(`closes_iff`, `opens_iff`).  So the run at the seam stays, and the tokens are those of the first part and
those of the second (`tokens_append_run`).  They resolve if those of both parts do; else the first part fails
before the second (`resolveParams_append_space`).
-/

import TermStyle.Proofs.Expression.Surrounded
import Mathlib.Data.List.Basic

namespace TermStyle
namespace Expression

open Text (Solid IsRun StartsSolid EndsSolid isBlank)

/-- Whether the last word of a text ends with a modifier that belongs to the word behind it. -/
def LeansForward (e : Text) : Prop := ∃ w, (Text.words e).getLast? = some w ∧ ClosesAny w

instance (e : Text) : Decidable (LeansForward e) :=
  inferInstanceAs (Decidable (∃ w ∈ (Text.words e).getLast?, ClosesAny w))

/-- Whether the first word of a text begins with a modifier that belongs to the word before it. -/
def LeansBack (e : Text) : Prop := ∃ w, (Text.words e).head? = some w ∧ Opens offWord w

instance (e : Text) : Decidable (LeansBack e) :=
  inferInstanceAs (Decidable (∃ w ∈ (Text.words e).head?, Opens offWord w))

section Words

variable {m : Text} (hm : IsModifier m)
include hm

/-- **A text ends with a modifier exactly if its last word does,** where no blank is behind it. -/
theorem closes_iff {x : Text} (hx : EndsSolid x) :
    Closes m x ↔ ∃ w, (Text.words x).getLast? = some w ∧ Closes m w := by
  induction x using Text.run_induction with
  | word x hsolid =>
    by_cases hnil : x = []
    · subst hnil
      exact iff_of_false (not_closes_nil hm) fun ⟨_, hw, _⟩ => nomatch hw
    · rw [Text.words_of_word hnil hsolid]
      simp
  | run w r y hw hr hstarts ih =>
    obtain ⟨hy, hends⟩ := hx.of_run hr
    have hsame : Closes m (w ++ (r ++ y)) ↔ Closes m y := by
      rw [← List.append_assoc]
      exact closes_append_iff hm (hr.any_getLast?_append w) y
    have hlast : (Text.words (w ++ (r ++ y))).getLast? = (Text.words y).getLast? := by
      have hsome : Text.words y ≠ [] := by
        obtain ⟨c, y', rfl⟩ := List.exists_cons_of_ne_nil hy
        exact Text.words_ne_nil (by rw [Text.startsInWord, hstarts c rfl]; rfl)
      rw [Text.words_append_run hr, List.getLast?_append_of_ne_nil _ hsome]
    rw [hsame, hlast, ih hends]

/-- **A text begins with a modifier exactly if its first word does,** where no blank is before it. -/
theorem opens_iff {y : Text} (hy : StartsSolid y) :
    Opens m y ↔ ∃ w, (Text.words y).head? = some w ∧ Opens m w := by
  rcases Text.exists_run y with hsolid | ⟨w, r, z, rfl, hw, hr, -⟩
  · by_cases hnil : y = []
    · subst hnil
      exact iff_of_false (not_opens_nil hm) fun ⟨_, hw, _⟩ => nomatch hw
    · rw [Text.words_of_word hnil hsolid]
      simp
  · have hne : w ≠ [] := by
      rintro rfl
      exact hr.not_startsSolid z hy
    rw [opens_append_iff hm (hr.any_head? z), Text.words_append_run hr, Text.words_of_word hne hw]
    simp

end Words

/-- Blanks behind a text are no part of its last word. -/
theorem leansForward_iff {x v : Text} (hx : EndsSolid x) (hv : ∀ c ∈ v, isBlank c = true) :
    LeansForward (x ++ v) ↔ ClosesAny x := by
  simp only [LeansForward, ClosesAny, Text.words_append_blanks hv, closes_iff isModifier_brightWord hx,
    closes_iff isModifier_backgroundWord hx, and_or_left, exists_or]

/-- Blanks before a text are no part of its first word. -/
theorem leansBack_iff {u y : Text} (hu : ∀ c ∈ u, isBlank c = true) (hy : StartsSolid y) :
    LeansBack (u ++ y) ↔ Opens offWord y := by
  rw [LeansBack, Text.words_blanks_append hu, opens_iff isModifier_offWord hy]

/-- **Between texts that keep to themselves, a run separates tokens.** -/
theorem tokens_append_run {r : Text} (hr : IsRun r) {x y : Text} (hx : ¬ LeansForward x) (hy : ¬ LeansBack y) :
    tokens (x ++ (r ++ y)) = tokens x ++ tokens y := by
  obtain ⟨x, v, rfl, hends, hv⟩ := Text.exists_trail x
  obtain ⟨u, y, rfl, hu, hstarts⟩ := Text.exists_lead y
  rw [leansForward_iff hends hv] at hx
  rw [leansBack_iff hu hstarts] at hy
  -- The blanks on either side belong to the run at the seam.
  have hseam : IsRun (v ++ (r ++ u)) :=
    ⟨List.append_ne_nil_of_right_ne_nil v (List.append_ne_nil_of_left_ne_nil hr.ne_nil u),
      List.forall_mem_append.2 ⟨hv, List.forall_mem_append.2 ⟨hr.blank, hu⟩⟩⟩
  have hkept : normalize (x ++ ((v ++ (r ++ u)) ++ y)) = normalize x ++ ((v ++ (r ++ u)) ++ normalize y) :=
    (joinsWhere_normalize.append_run local_joins hends hseam hstarts).2 (not_or.2 ⟨hx, hy⟩)
  rw [tokens_trail hv fun h => hx h.2, tokens_lead hu fun h => hy h.2, tokens, tokens, tokens,
    ← Text.words_append_run hseam, ← hkept]
  simp only [List.append_assoc]

section Failures

variable {table : AttributeTable} {palette : OrderedMap Text Text} {first second : List Text}

/-- Tokens resolve if those before a place and those behind it do. -/
theorem resolveTokens_append_eq_ok_iff {parameters : List Text} :
    resolveTokens table palette (first ++ second) = .ok parameters ↔
      ∃ before behind, resolveTokens table palette first = .ok before ∧
        resolveTokens table palette second = .ok behind ∧ parameters = before ++ behind := by
  simp only [resolveTokens_eq_ok_iff, List.forall_mem_append, List.flatMap_append]
  constructor
  · rintro ⟨⟨hfirst, hsecond⟩, hparameters⟩
    exact ⟨_, _, ⟨hfirst, rfl⟩, ⟨hsecond, rfl⟩, hparameters⟩
  · rintro ⟨_, _, ⟨hfirst, rfl⟩, ⟨hsecond, rfl⟩, hparameters⟩
    exact ⟨⟨hfirst, hsecond⟩, hparameters⟩

/-- Tokens fail with those before a place. -/
theorem resolveTokens_append_of_error {unknown : Text} (h : resolveTokens table palette first = .error unknown)
    (second : List Text) : resolveTokens table palette (first ++ second) = .error unknown := by
  obtain ⟨before, after, rfl, hbefore, hunknown⟩ := resolveTokens_eq_error_iff.1 h
  exact resolveTokens_eq_error_iff.2 ⟨before, after ++ second, by simp, hbefore, hunknown⟩

/-- Tokens fail with those behind a place if those before it resolve. -/
theorem resolveTokens_append_of_ok {before : List Text} {unknown : Text}
    (h : resolveTokens table palette first = .ok before)
    (hunknown : resolveTokens table palette second = .error unknown) :
    resolveTokens table palette (first ++ second) = .error unknown := by
  obtain ⟨earlier, after, rfl, hearlier, hunknown⟩ := resolveTokens_eq_error_iff.1 hunknown
  have hfirst := (resolveTokens_eq_ok_iff.1 h).1
  exact resolveTokens_eq_error_iff.2
    ⟨first ++ earlier, after, by simp, List.forall_mem_append.2 ⟨hfirst, hearlier⟩, hunknown⟩

end Failures

theorem isRun_space : IsRun [' '] := ⟨List.cons_ne_nil _ _, List.forall_mem_singleton.2 rfl⟩

/-- **Resolution composes:** with a space between them, two expressions that keep to themselves resolve exactly
if each does, to the parameters of the first and those of the second.  Otherwise they fail with the token that
the first one fails with, or with that of the second one if the first resolves. -/
theorem resolveParams_append_space (palette : Palette) {e₁ e₂ : Text} (h₁ : ¬ LeansForward e₁)
    (h₂ : ¬ LeansBack e₂) :
    (∀ parameters, resolveParams Attribute.table palette (e₁ ++ ' ' :: e₂) = .ok parameters ↔
      ∃ before behind, resolveParams Attribute.table palette e₁ = .ok before ∧
        resolveParams Attribute.table palette e₂ = .ok behind ∧ parameters = before ++ behind) ∧
    (∀ u, resolveParams Attribute.table palette e₁ = .error u →
      resolveParams Attribute.table palette (e₁ ++ ' ' :: e₂) = .error ⟨u.token, e₁ ++ ' ' :: e₂⟩) ∧
    (∀ before u, resolveParams Attribute.table palette e₁ = .ok before →
      resolveParams Attribute.table palette e₂ = .error u →
        resolveParams Attribute.table palette (e₁ ++ ' ' :: e₂) = .error ⟨u.token, e₁ ++ ' ' :: e₂⟩) := by
  have htokens : tokens (e₁ ++ ' ' :: e₂) = tokens e₁ ++ tokens e₂ := tokens_append_run isRun_space h₁ h₂
  refine ⟨fun parameters => ?_, fun u hfails => ?_, fun before u hfirst hfails => ?_⟩
  · simp only [resolveParams_eq_ok_iff, htokens, resolveTokens_append_eq_ok_iff]
  · have hunknown := (resolveParams_eq_error_iff.1 hfails).1
    refine resolveParams_eq_error_iff.2 ⟨?_, rfl⟩
    rw [htokens]
    exact resolveTokens_append_of_error hunknown _
  · have hunknown := (resolveParams_eq_error_iff.1 hfails).1
    refine resolveParams_eq_error_iff.2 ⟨?_, rfl⟩
    rw [htokens]
    exact resolveTokens_append_of_ok (resolveParams_eq_ok_iff.1 hfirst) hunknown

/-- Blanks on both sides of the seam, and a modifier away from it: both parts resolve, and the whole does. -/
theorem resolveParams_append_space_bold :
    ¬ LeansForward "bold off ".toList ∧ ¬ LeansBack "\tdim".toList ∧
    resolveParams Attribute.table [] "bold off ".toList = .ok ["22".toList] ∧
    resolveParams Attribute.table [] "\tdim".toList = .ok ["2".toList] ∧
    resolveParams Attribute.table [] ("bold off ".toList ++ ' ' :: "\tdim".toList) =
      .ok ["22".toList, "2".toList] := by
  have hforward : ¬ LeansForward "bold off ".toList := by decide
  have hback : ¬ LeansBack "\tdim".toList := by decide
  have hfirst : resolveParams Attribute.table [] "bold off ".toList = .ok ["22".toList] := rfl
  have hsecond : resolveParams Attribute.table [] "\tdim".toList = .ok ["2".toList] := rfl
  refine ⟨hforward, hback, hfirst, hsecond, ?_⟩
  exact ((resolveParams_append_space [] hforward hback).1 _).2 ⟨_, _, hfirst, hsecond, rfl⟩

end Expression
end TermStyle
