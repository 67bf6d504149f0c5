/-
# Blanks around an expression

Blanks at the ends of an expression separate nothing.  But the normal form looks for modifiers before it
cuts the text into tokens, and there they are blanks like any others: behind `bright` or `bg` at the end they
give way to a low line, and so they do before `off` at the beginning.  The low line is then part of the last
token or of the first.

| blanks | where the expression | what becomes of them |
| --- | --- | --- |
| in front | begins with `off` | a low line, put to the first token |
| behind | ends with `bright` or `bg` | a low line, put to the last token |
| in front or behind | does not | they stay, and separate nothing |

No keyword begins or ends with a low line (`Attribute.unlined_table`).  So what is not reserved in the tokens
gets longer with each low line that is put to them (`weight_tokens_lead`, `weight_tokens_trail`), and some
palette can tell: surrounding blanks make no difference exactly where there is no low line
(`sameOutcome_surrounded`).  A modifier that stands alone means nothing, but with a blank beside it it is
an unknown token (`not_sameOutcome_stray`).
-/

import TermStyle.Proofs.Attribute.Keywords
import TermStyle.Proofs.Expression.Joining
import TermStyle.Proofs.Expression.Outcomes
import TermStyle.Proofs.Expression.Unknown

namespace TermStyle
namespace Expression

open Text (Solid IsRun StartsSolid EndsSolid isBlank)

/-- How long the tokens are together that are no keywords. -/
def weight (ts : List Text) : Nat := (unreserved ts).flatten.length

/-- **A token that gets longer adds to the weight,** if it is no keyword afterwards. -/
theorem weight_lt {token longer : Text} (hfree : Attribute.table.get? longer = none)
    (hlength : token.length < longer.length) (before after : List Text) :
    weight (before ++ token :: after) < weight (before ++ longer :: after) := by
  have hlonger : (Attribute.table.get? longer).isNone = true := by
    rw [hfree]
    rfl
  unfold weight unreserved
  rw [List.filter_append, List.filter_append, List.filter_cons, List.filter_cons, if_pos hlonger]
  split
  · simp only [List.flatten_append, List.flatten_cons, List.length_append]
    omega
  · simp only [List.flatten_append, List.flatten_cons, List.length_append]
    omega

/-- To join the blanks at the beginning, if there are any, takes `off` behind them. -/
theorem normalize_lead {r y : Text} (hr : ∀ c ∈ r, isBlank c = true) (hy : StartsSolid y) :
    normalize (r ++ y) = if r ≠ [] ∧ Opens offWord y then '_' :: normalize y else r ++ normalize y := by
  have hjoins : Joins [] y ↔ Opens offWord y :=
    or_iff_right fun hcloses => hcloses.elim (not_closes_nil isModifier_brightWord)
      (not_closes_nil isModifier_backgroundWord)
  by_cases hnil : r = []
  · rw [if_neg fun h => h.1 hnil, hnil]
    rfl
  · by_cases hopens : Opens offWord y
    · rw [if_pos ⟨hnil, hopens⟩]
      have hrun := joinsWhere_normalize.joined Solid.nil ⟨hnil, hr⟩ hy (hjoins.2 hopens)
      rwa [List.nil_append, List.nil_append] at hrun
    · rw [if_neg fun h => hopens h.2]
      have hrun := joinsWhere_normalize.kept Solid.nil ⟨hnil, hr⟩ hy fun h => hopens (hjoins.1 h)
      rwa [List.nil_append, List.nil_append] at hrun

/-- To join the blanks at the end, if there are any, takes `bright` or `bg` before them. -/
theorem normalize_trail {x r : Text} (hx : EndsSolid x) (hr : ∀ c ∈ r, isBlank c = true) :
    normalize (x ++ r) = if r ≠ [] ∧ ClosesAny x then normalize x ++ ['_'] else normalize x ++ r := by
  have hjoins : Joins x [] ↔ ClosesAny x := or_iff_left (not_opens_nil isModifier_offWord)
  by_cases hnil : r = []
  · rw [if_neg fun h => h.1 hnil, hnil, List.append_nil, List.append_nil]
  · obtain ⟨hjoined, hkept⟩ :=
      joinsWhere_normalize.append_run local_joins hx ⟨hnil, hr⟩ Solid.nil.startsSolid
    rw [List.append_nil, joinsWhere_normalize.word Solid.nil] at hjoined hkept
    by_cases hcloses : ClosesAny x
    · rw [if_pos ⟨hnil, hcloses⟩]
      exact hjoined (hjoins.2 hcloses)
    · rw [if_neg fun h => hcloses h.2, hkept fun h => hcloses (hjoins.1 h), List.append_nil]

/-- Blanks behind a text do not change how it begins. -/
theorem opens_append_blanks {e v : Text} (hv : ∀ c ∈ v, isBlank c = true) :
    Opens offWord (e ++ v) ↔ Opens offWord e := by
  refine (local_opens isModifier_offWord).behind [] e (any_isAlphanum_eq_false.2 fun c hc => ?_)
  exact Text.isAlphanum_of_isBlank (hv c (List.mem_of_head? hc))

/-- Whether a modifier at an end of an expression takes the blanks around it, those in front or those behind,
for blanks beside a word. -/
def Takes (u v e : Text) : Prop := (u ≠ [] ∧ Opens offWord e) ∨ (v ≠ [] ∧ ClosesAny e)

instance (u v e : Text) : Decidable (Takes u v e) := inferInstanceAs (Decidable (_ ∨ _))

section Ends

variable {u v : Text} (hu : ∀ c ∈ u, isBlank c = true) (hv : ∀ c ∈ v, isBlank c = true)

include hu in
/-- **Blanks in front make no difference to the tokens,** unless the expression begins with `off`. -/
theorem tokens_lead {e : Text} (h : ¬ (u ≠ [] ∧ Opens offWord e)) : tokens (u ++ e) = tokens e := by
  obtain ⟨r, y, rfl, hr, hy⟩ := Text.exists_lead e
  have hboth : ∀ c ∈ u ++ r, isBlank c = true := fun c hc => (List.mem_append.1 hc).elim (hu c) (hr c)
  rw [← List.append_assoc, tokens, tokens, normalize_lead hboth hy, normalize_lead hr hy]
  by_cases hopens : Opens offWord y
  · by_cases hnil : r = []
    · subst hnil
      have hunil : u = [] := Classical.byContradiction fun hne => h ⟨hne, hopens⟩
      rw [hunil]
      rfl
    · rw [if_pos ⟨List.append_ne_nil_of_right_ne_nil u hnil, hopens⟩, if_pos ⟨hnil, hopens⟩]
  · rw [if_neg fun h => hopens h.2, if_neg fun h => hopens h.2, Text.words_blanks_append hboth,
      Text.words_blanks_append hr]

include hv in
/-- **Blanks behind make no difference to the tokens,** unless the expression ends with `bright` or `bg`. -/
theorem tokens_trail {e : Text} (h : ¬ (v ≠ [] ∧ ClosesAny e)) : tokens (e ++ v) = tokens e := by
  obtain ⟨x, r, rfl, hx, hr⟩ := Text.exists_trail e
  have hboth : ∀ c ∈ r ++ v, isBlank c = true := fun c hc => (List.mem_append.1 hc).elim (hr c) (hv c)
  rw [List.append_assoc, tokens, tokens, normalize_trail hx hboth, normalize_trail hx hr]
  by_cases hcloses : ClosesAny x
  · by_cases hnil : r = []
    · subst hnil
      rw [List.append_nil] at h
      have hvnil : v = [] := Classical.byContradiction fun hne => h ⟨hne, hcloses⟩
      rw [hvnil]
      rfl
    · rw [if_pos ⟨List.append_ne_nil_of_left_ne_nil hnil v, hcloses⟩, if_pos ⟨hnil, hcloses⟩]
  · rw [if_neg fun h => hcloses h.2, if_neg fun h => hcloses h.2, Text.words_append_blanks hboth,
      Text.words_append_blanks hr]

include hu in
/-- **Before `off`, blanks make the tokens longer:** the first one has a low line more. -/
theorem weight_tokens_lead (hne : u ≠ []) {e : Text} (hopens : Opens offWord e) :
    weight (tokens e) < weight (tokens (u ++ e)) := by
  have hafter : Opens offWord (normalize e) :=
    (joinsWhere_normalize.joins_fold_iff (local_opens isModifier_offWord) [] e).2 hopens
  have hword : Text.startsInWord (normalize e) = true := by
    obtain ⟨more, hmore, -⟩ := hafter
    rw [hmore]
    rfl
  have hsolid : StartsSolid e := by
    obtain ⟨more, rfl, -⟩ := hopens
    exact isModifier_offWord.solid.startsSolid.append isModifier_offWord.ne_nil more
  obtain ⟨w, ws, hwords, hlonger⟩ := Text.words_cons_of_startsInWord (rfl : isBlank '_' = false) hword
  rw [tokens, tokens, normalize_lead hu hsolid, if_pos ⟨hne, hopens⟩, hwords, hlonger]
  exact weight_lt (Attribute.get?_line_cons w) (Nat.lt_succ_self _) [] ws

include hv in
/-- **Behind `bright` and `bg`, blanks make the tokens longer:** the last one has a low line more. -/
theorem weight_tokens_trail (hne : v ≠ []) {e : Text} (hcloses : ClosesAny e) :
    weight (tokens e) < weight (tokens (e ++ v)) := by
  have hends : ∀ {m}, IsModifier m → Closes m e → EndsSolid e ∧ e ≠ [] := by
    rintro m hm ⟨before, rfl, -⟩
    exact ⟨hm.solid.endsSolid.append hm.ne_nil before, List.append_ne_nil_of_right_ne_nil before hm.ne_nil⟩
  obtain ⟨hsolid, hsome⟩ := hcloses.elim (hends isModifier_brightWord) (hends isModifier_backgroundWord)
  obtain ⟨hafter, hword⟩ := joinsWhere_normalize.endsSolid hsolid hsome
  obtain ⟨ws, w, hwords, hlonger⟩ := Text.words_concat_of_endsSolid (rfl : isBlank '_' = false) hafter hword
  rw [tokens, tokens, normalize_trail hsolid hv, if_pos ⟨hne, hcloses⟩, hwords, hlonger]
  refine weight_lt (Attribute.get?_concat_line w) ?_ ws []
  rw [List.length_append, List.length_singleton]
  exact Nat.lt_succ_self _

include hu hv

/-- **Where the blanks are taken, the tokens get longer,** at one end or at both. -/
theorem weight_tokens_surrounded {e : Text} (h : Takes u v e) :
    weight (tokens e) < weight (tokens (u ++ (e ++ v))) := by
  have hopens : Opens offWord (e ++ v) ↔ Opens offWord e := opens_append_blanks hv
  have hlead : weight (tokens (e ++ v)) ≤ weight (tokens (u ++ (e ++ v))) := by
    by_cases hoff : u ≠ [] ∧ Opens offWord (e ++ v)
    · exact Nat.le_of_lt (weight_tokens_lead hu hoff.1 hoff.2)
    · exact Nat.le_of_eq (by rw [tokens_lead hu hoff])
  have htrail : weight (tokens e) ≤ weight (tokens (e ++ v)) := by
    by_cases hcloses : v ≠ [] ∧ ClosesAny e
    · exact Nat.le_of_lt (weight_tokens_trail hv hcloses.1 hcloses.2)
    · exact Nat.le_of_eq (by rw [tokens_trail hv hcloses])
  rcases h with ⟨hne, hoff⟩ | ⟨hne, hcloses⟩
  · exact Nat.lt_of_le_of_lt htrail (weight_tokens_lead hu hne (hopens.2 hoff))
  · exact Nat.lt_of_lt_of_le (weight_tokens_trail hv hne hcloses) hlead

/-- **Surrounding blanks make no difference** exactly where no modifier takes them for blanks beside a word.
Then the expression comes to the same with and without them, whatever is in the palette.  Otherwise there is
a palette under which it does not. -/
theorem sameOutcome_surrounded (e : Text) :
    (¬ Takes u v e → ∀ palette : Palette, SameOutcome palette (u ++ e ++ v) e) ∧
    (Takes u v e → ∃ palette : Palette, palette.Sound ∧ ¬ SameOutcome palette (u ++ e ++ v) e) := by
  rw [List.append_assoc]
  constructor
  · intro h palette
    have hlead : ¬ (u ≠ [] ∧ Opens offWord (e ++ v)) := by
      rw [opens_append_blanks hv]
      exact fun hoff => h (.inl hoff)
    have htrail : ¬ (v ≠ [] ∧ ClosesAny e) := fun hcloses => h (.inr hcloses)
    rw [sameOutcome_iff, tokens_lead hu hlead, tokens_trail hv htrail]
  · intro h
    refine Classical.byContradiction fun hnone => ?_
    have hsame : ∀ palette : Palette, palette.Sound → SameOutcome palette (u ++ (e ++ v)) e :=
      fun palette hsound => Classical.byContradiction fun hdiffer => hnone ⟨palette, hsound, hdiffer⟩
    have hweight : weight (tokens (u ++ (e ++ v))) = weight (tokens e) :=
      (perm_unreserved_of_sameOutcome hsame).flatten.length_eq
    have hmore := weight_tokens_surrounded hu hv h
    omega

end Ends

/-- Blanks around a style that has modifiers, but neither begins with `off` nor ends with `bright` or `bg`;
and blanks around one that ends with `bright`. -/
theorem sameOutcome_surrounded_bold :
    (∀ c ∈ "\t ".toList, isBlank c = true) ∧ (∀ c ∈ "\n".toList, isBlank c = true) ∧
    SameOutcome [] ("\t ".toList ++ "bright fg_red  bold off".toList ++ "\n".toList)
      "bright fg_red  bold off".toList ∧
    ∃ palette : Palette, palette.Sound ∧
      ¬ SameOutcome palette ("\t ".toList ++ "bold bright".toList ++ "\n".toList) "bold bright".toList := by
  have hfront : ∀ c ∈ "\t ".toList, isBlank c = true := List.all_eq_true.1 (by decide)
  have hback : ∀ c ∈ "\n".toList, isBlank c = true := List.all_eq_true.1 (by decide)
  refine ⟨hfront, hback, (sameOutcome_surrounded hfront hback _).1 ?_ [],
    (sameOutcome_surrounded hfront hback _).2 ?_⟩
  · decide
  · decide

/-- One token that is reserved means nothing. -/
theorem resolveParams_of_reserved {x token : Text} (htokens : tokens x = [token])
    (hreserved : Attribute.table.get? token = some none) : resolveParams Attribute.table [] x = .ok [] := by
  simp only [resolveParams, htokens, resolveTokens, resolveToken, hreserved]
  rfl

/-- One token that is unknown is what an expression fails with. -/
theorem resolveParams_of_unknown {x token : Text} (htokens : tokens x = [token]) (hunknown : Unknown [] token) :
    resolveParams Attribute.table [] x = .error ⟨token, x⟩ := by
  rw [resolveParams, htokens, resolveTokens, resolveToken_eq_none_iff_unknown.2 hunknown]

/-- **A stray modifier is absorbed only where no blank stands beside it.**  Alone, `bright` and `off` give no
parameters; with a blank behind the one and before the other, they are unknown tokens. -/
theorem not_sameOutcome_stray :
    resolveParams Attribute.table [] "bright".toList = .ok [] ∧
    resolveParams Attribute.table [] "bright ".toList = .error ⟨"bright_".toList, "bright ".toList⟩ ∧
    resolveParams Attribute.table [] "off".toList = .ok [] ∧
    resolveParams Attribute.table [] " off".toList = .error ⟨"_off".toList, " off".toList⟩ ∧
    ¬ SameOutcome [] "bright ".toList "bright".toList ∧ ¬ SameOutcome [] " off".toList "off".toList := by
  have hbright : resolveParams Attribute.table [] "bright".toList = .ok [] :=
    resolveParams_of_reserved (by decide) (Attribute.get?_modifier (Attribute.reserved "bright") (by decide))
  have hoff : resolveParams Attribute.table [] "off".toList = .ok [] :=
    resolveParams_of_reserved (by decide) (Attribute.get?_modifier (Attribute.reserved "off") (by decide))
  have hbehind : Unknown [] "bright_".toList :=
    ⟨OrderedMap.get?_eq_none_iff.1 (Attribute.get?_concat_line brightWord), List.not_mem_nil, by decide,
      by decide, by decide⟩
  have hbefore : Unknown [] "_off".toList :=
    ⟨OrderedMap.get?_eq_none_iff.1 (Attribute.get?_line_cons offWord), List.not_mem_nil, by decide, by decide,
      by decide⟩
  have hstray : resolveParams Attribute.table [] "bright ".toList = .error ⟨"bright_".toList, "bright ".toList⟩ :=
    resolveParams_of_unknown (by decide) hbehind
  have hastray : resolveParams Attribute.table [] " off".toList = .error ⟨"_off".toList, " off".toList⟩ :=
    resolveParams_of_unknown (by decide) hbefore
  refine ⟨hbright, hstray, hoff, hastray, ?_, ?_⟩
  · intro hsame
    rw [SameOutcome, hstray, hbright] at hsame
    cases hsame
  · intro hsame
    rw [SameOutcome, hastray, hoff] at hsame
    cases hsame

end Expression
end TermStyle
