/-
# What expressions resolve to

A token has its parameter from one of five places, and in each of them it is a text of digits, colons
and semicolons that is not empty:

| place | why |
| --- | --- |
| attribute table | every entry is so (`parametrized_table`) |
| palette | values are so where they are not empty, if the palette is sound |
| true color | decimal digits, joined by semicolons (`isParameter_trueColor`) |
| raw parameters | the form asks for it (`matchWhole_rawScan_eq_some_iff`) |

So an expression that resolves under a sound palette gives nothing, or a sequence with a parameter in
it (`sequence_cases_of_resolve`).
-/

import TermStyle.Proofs.Attribute.Keywords
import TermStyle.Proofs.Expression.Literals
import TermStyle.Proofs.Expression.Tokens
import TermStyle.Proofs.Palette.Sound
import TermStyle.Proofs.Sgr.Sequences

namespace TermStyle

/-- The digits of a number are a parameter. -/
theorem Text.isParameter_digits (n : Nat) : Sgr.IsParameter (Text.digits n) := by
  refine ⟨Nat.toDigits_ne_nil, fun c hc => ?_⟩
  have hdigit : c.isDigit = true := Nat.isDigit_of_mem_toDigits (by decide) (by decide) hc
  simp only [Sgr.isParameterChar, hdigit, Bool.true_or]

namespace Attribute

/-- Whether every attribute of a table is reserved or has a parameter. -/
def Parametrized (table : AttributeTable) : Prop :=
  ∀ e ∈ table, ∀ parameter ∈ e.2, Sgr.IsParameter parameter.text

theorem parametrized_named : Parametrized named := by
  have hall : (named.all fun e => e.2.all fun parameter =>
      !parameter.text.isEmpty && parameter.text.all Sgr.isParameterChar) = true := by
    decide
  intro e he parameter hp
  have hsome := List.all_eq_true.1 hall e he
  rw [Option.mem_def.1 hp] at hsome
  obtain ⟨hne, hchars⟩ := Bool.and_eq_true_iff.1 hsome
  refine ⟨fun hnil => ?_, List.all_eq_true.1 hchars⟩
  rw [hnil] at hne
  exact Bool.false_ne_true hne

theorem parametrized_color (name : Text) (index : Nat) : Parametrized (color name index) := by
  have hindexed : ∀ selector, ∀ parameter ∈ indexed selector index, Sgr.IsParameter parameter.text := by
    intro selector parameter hp
    cases hp
    exact ((Text.isParameter_digits selector).append (List.all_eq_true.1 (by decide))).append
      (Text.isParameter_digits index).2
  intro e he
  simp only [color, List.mem_cons, List.not_mem_nil, or_false] at he
  rcases he with rfl | rfl | rfl <;> exact hindexed _

/-- **Every attribute is reserved or has a parameter.** -/
theorem parametrized_table : Parametrized table :=
  forall_mem_table parametrized_named fun _ _ _ _ _ => parametrized_color _ _

end Attribute

namespace Expression

theorem isParameter_trueColor (selector : Nat) (parts : List (Option Text)) :
    Sgr.IsParameter (trueColor selector parts) := by
  refine Sgr.isParameter_intercalate fun p hp => ?_
  simp only [List.mem_cons, List.mem_map] at hp
  rcases hp with rfl | rfl | ⟨part, -, rfl⟩
  · exact Text.isParameter_digits selector
  · exact Text.isParameter_digits 2
  · exact Text.isParameter_digits _

theorem isParameter_of_rawScan {token : Text} {parts : List (Option Text)}
    (h : Text.matchWhole rawScan token = some parts) :
    Sgr.IsParameter ((parts.headD none).getD []) := by
  obtain ⟨params, -, hparams, rfl⟩ := matchWhole_rawScan_eq_some_iff.1 h
  exact hparams

variable {table : AttributeTable} {palette : Palette} (htable : Attribute.Parametrized table)
  (hpalette : palette.Sound)
include htable hpalette

/-- **What a token stands for is a parameter,** or deliberately none. -/
theorem isParameter_of_resolveToken {token parameter : Text}
    (h : resolveToken table palette token = some (some parameter)) : Sgr.IsParameter parameter := by
  unfold resolveToken at h
  split at h
  · rename_i found hfound
    obtain ⟨code, hcode, rfl⟩ := Option.map_eq_some_iff.1 (Option.some.inj h)
    exact htable _ (OrderedMap.mem_of_get? hfound) code hcode
  · split at h
    · rename_i value hvalue
      split at h
      · cases h
      · rename_i hsome
        cases h
        exact ⟨fun hnil => hsome (List.isEmpty_iff.2 hnil),
          hpalette.values _ (OrderedMap.mem_of_get? hvalue)⟩
    · split at h
      · cases h
        exact isParameter_trueColor 38 _
      · split at h
        · cases h
          exact isParameter_trueColor 48 _
        · obtain ⟨parts, hparts, hsame⟩ := Option.map_eq_some_iff.1 h
          cases hsame
          exact isParameter_of_rawScan hparts

theorem isParameter_of_resolveTokens {tokens parameters : List Text}
    (h : resolveTokens table palette tokens = .ok parameters) :
    ∀ p ∈ parameters, Sgr.IsParameter p := by
  obtain ⟨-, rfl⟩ := resolveTokens_eq_ok_iff.1 h
  intro p hp
  obtain ⟨token, -, hp⟩ := List.mem_flatMap.1 hp
  exact isParameter_of_resolveToken htable hpalette (Option.join_eq_some_iff.1 (Option.mem_toList.1 hp))

omit htable in
/-- **An expression gives nothing, or a sequence with a parameter in it,** if the palette is sound. -/
theorem sequence_cases_of_resolve {x sequence : Text} (h : resolve palette x = .ok sequence) :
    sequence = [] ∨ ∃ p, Sgr.IsParameter p ∧ sequence = Sgr.escape :: '[' :: (p ++ ['m']) := by
  obtain ⟨parameters, hparams, rfl⟩ := resolve_eq_ok_iff.1 h
  exact Sgr.sequence_cases
    (isParameter_of_resolveTokens Attribute.parametrized_table hpalette (resolveParams_eq_ok_iff.1 hparams))

omit htable in
theorem isStyle_of_resolve {x sequence : Text} (h : resolve palette x = .ok sequence) :
    Sgr.IsStyle sequence :=
  (sequence_cases_of_resolve hpalette h).imp_right fun ⟨p, hp, hsequence⟩ => ⟨p, hsequence, hp.2⟩

end Expression

end TermStyle
