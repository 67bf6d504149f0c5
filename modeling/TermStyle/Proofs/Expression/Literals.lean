/-
# Tokens that need no name

Two kinds of tokens say themselves what they stand for, and what they look like is said here without a scan:

| token | form | marked |
| --- | --- | --- |
| a true color | its word and six hexadecimal digits (`matchWhole_hexScan_eq_some_iff`) | the digits, two by two |
| raw parameters | `=` and parameter characters, at least one (`matchWhole_rawScan_eq_some_iff`) | what follows the `=` |

The scan for a color stops behind the sixth digit and the scan for parameters goes on as far as there are any,
so each of them has one length that it can find, and a token is of the form if that is its own.
-/

import TermStyle.Expression.Resolve
import TermStyle.Proofs.Sgr.Sequences
import Mathlib.Data.List.TakeWhile

namespace TermStyle

/-- The whole of a text is found if what is found at its beginning is as long. -/
theorem Text.matchWhole_unique_eq_some_iff {find : Option Char → Text → Option Hit} {t : Text}
    {parts : List (Option Text)} :
    matchWhole (.unique find) t = some parts ↔ find none t = some ⟨t.length, parts⟩ := by
  rw [matchWhole, Option.map_eq_some_iff]
  constructor
  · rintro ⟨⟨length, groups⟩, hfound, rfl⟩
    obtain ⟨hfind, hwelcome⟩ := Option.filter_eq_some_iff.1 hfound
    have hlength : length = t.length := eq_of_beq hwelcome
    rw [← List.head?_nil, hfind, hlength]
  · intro hfind
    refine ⟨_, Option.filter_eq_some_iff.2 ⟨hfind, beq_self_eq_true _⟩, rfl⟩

namespace Expression

/-- **A true color is its word and six hexadecimal digits.** -/
theorem matchWhole_hexScan_eq_some_iff {word t : Text} {parts : List (Option Text)} :
    Text.matchWhole (hexScan word) t = some parts ↔
      ∃ r₁ r₂ g₁ g₂ b₁ b₂, t = word ++ [r₁, r₂, g₁, g₂, b₁, b₂] ∧
        (∀ c ∈ [r₁, r₂, g₁, g₂, b₁, b₂], isHexDigit c = true) ∧
          parts = [some [r₁, r₂], some [g₁, g₂], some [b₁, b₂]] := by
  rw [hexScan, Text.matchWhole_unique_eq_some_iff]
  constructor
  · intro hfind
    split at hfind
    · rename_i hword
      obtain ⟨rest, rfl⟩ := List.isPrefixOf_iff_prefix.1 hword
      rw [List.drop_left] at hfind
      split at hfind
      · rename_i r₁ r₂ g₁ g₂ b₁ b₂ more
        split at hfind
        · rename_i hdigits
          obtain ⟨hlength, hparts⟩ := Text.Hit.mk.inj (Option.some.inj hfind)
          -- Nothing stands behind the sixth digit, or the token would be longer.
          have hmore : more = [] := by
            simp only [List.length_append, List.length_cons] at hlength
            exact List.eq_nil_of_length_eq_zero (by omega)
          subst hmore
          exact ⟨r₁, r₂, g₁, g₂, b₁, b₂, rfl, List.all_eq_true.1 hdigits, hparts.symm⟩
        · cases hfind
      · cases hfind
    · cases hfind
  · rintro ⟨r₁, r₂, g₁, g₂, b₁, b₂, rfl, hdigits, rfl⟩
    have hword : word.isPrefixOf (word ++ [r₁, r₂, g₁, g₂, b₁, b₂]) = true :=
      List.isPrefixOf_iff_prefix.2 (List.prefix_append ..)
    rw [if_pos hword, List.drop_left, List.length_append]
    dsimp only
    rw [if_pos (List.all_eq_true.2 hdigits)]
    rfl

/-- **Raw parameters are `=` and parameter characters,** at least one. -/
theorem matchWhole_rawScan_eq_some_iff {t : Text} {parts : List (Option Text)} :
    Text.matchWhole rawScan t = some parts ↔
      ∃ params, t = '=' :: params ∧ Sgr.IsParameter params ∧ parts = [some params] := by
  rw [rawScan, Text.matchWhole_unique_eq_some_iff]
  constructor
  · intro hfind
    split at hfind
    · rename_i body
      dsimp only at hfind
      split at hfind
      · cases hfind
      · rename_i hsome
        obtain ⟨hlength, hparts⟩ := Text.Hit.mk.inj (Option.some.inj hfind)
        have hwhole : body.takeWhile Sgr.isParameterChar = body :=
          (List.takeWhile_prefix _).eq_of_length (Nat.succ.inj hlength)
        rw [hwhole] at hsome hparts
        refine ⟨body, rfl, ⟨fun hnil => hsome (List.isEmpty_iff.2 hnil), ?_⟩, hparts.symm⟩
        rw [← hwhole]
        exact List.all_eq_true.1 List.all_takeWhile
    · cases hfind
  · rintro ⟨params, rfl, ⟨hne, hchars⟩, rfl⟩
    have hwhole : params.takeWhile Sgr.isParameterChar = params := List.takeWhile_eq_self_iff.2 hchars
    simp only [hwhole]
    rw [if_neg fun hnil => hne (List.isEmpty_iff.1 hnil), List.length_cons]

end Expression
end TermStyle
