/-
# Palette names inside expressions

To a palette, a name is a single word.  To the normal form, a word is what stands between boundaries, and
everything but ASCII letters and digits is a boundary.  So there are names in which it finds a modifier:

| name | in an expression | becomes |
| --- | --- | --- |
| ends with `bright` or `bg`, such as `bg` or `my-bg` | `my-bg dim` | `my-bg_dim` |
| begins with `off`, such as `off-white` | `bold off-white` | `bold_off-white` |

Alone, each of them stands for its value; beside a blank it becomes a part of a longer token, which nothing
gives a meaning.  All other names stand for their values wherever they are put (`worksInside_iff`).

For the one direction the expression is divided at the blanks around the name.  For the other, whatever else
is in the palette, there are raw parameters longer than any name and any keyword (`filler`), and a token that
is longer still and has a low line in it is unknown (`Bounds.resolveToken_eq_none`).
-/

import TermStyle.Proofs.Expression.Literals
import TermStyle.Proofs.Expression.Seams

namespace TermStyle
namespace Expression

set_option maxRecDepth 4000

open Text (Solid IsRun StartsSolid EndsSolid isBlank)

/-- Whether a name stands for its value wherever it is put between two expressions that keep to
themselves. -/
def WorksInside (palette : Palette) (name value : Text) : Prop :=
  ∀ e₁ e₂ before behind, ¬ LeansForward e₁ → ¬ LeansBack e₂ →
    resolveParams Attribute.table palette e₁ = .ok before →
      resolveParams Attribute.table palette e₂ = .ok behind →
        resolveParams Attribute.table palette (e₁ ++ ' ' :: (name ++ ' ' :: e₂)) =
          .ok (before ++ (if value.isEmpty then [] else [value]) ++ behind)

section Word

variable {w : Text} (hne : w ≠ []) (hw : Solid w)
include hne hw

/-- A word by itself is its only token. -/
theorem tokens_of_word : tokens w = [w] := by
  rw [tokens, joinsWhere_normalize.word hw, Text.words_of_word hne hw]

theorem leansForward_word : LeansForward w ↔ ClosesAny w := by
  rw [LeansForward, Text.words_of_word hne hw]
  simp

theorem leansBack_word_append (e : Text) : LeansBack (w ++ ' ' :: e) ↔ Opens offWord w := by
  rw [LeansBack, Text.words_append_blank rfl, Text.words_of_word hne hw]
  simp

end Word

/-- A name that is no keyword stands for its value, or deliberately for nothing. -/
theorem resolveTokens_name {palette : Palette} {name value : Text} (hheld : palette.get? name = some value)
    (hfree : Attribute.table.get? name = none) :
    resolveTokens Attribute.table palette [name] = .ok (if value.isEmpty then [] else [value]) := by
  have htoken : resolveToken Attribute.table palette name = some (if value.isEmpty then none else some value) := by
    simp only [resolveToken, hfree, hheld]
  rw [resolveTokens, htoken]
  cases value with
  | nil => rfl
  | cons c value => rfl

/-- **A name that is a whole word to the normal form works inside expressions.** -/
theorem worksInside_of_whole {palette : Palette} {name value : Text} (hne : name ≠ []) (hsolid : Solid name)
    (hheld : palette.get? name = some value) (hfree : Attribute.table.get? name = none)
    (hcloses : ¬ ClosesAny name) (hopens : ¬ Opens offWord name) : WorksInside palette name value := by
  intro e₁ e₂ before behind h₁ h₂ hbefore hbehind
  rw [resolveParams_eq_ok_iff] at hbefore hbehind ⊢
  have hinner : tokens (name ++ ' ' :: e₂) = [name] ++ tokens e₂ := by
    rw [← tokens_of_word hne hsolid]
    exact tokens_append_run isRun_space (mt (leansForward_word hne hsolid).1 hcloses) h₂
  have houter : tokens (e₁ ++ ' ' :: (name ++ ' ' :: e₂)) = tokens e₁ ++ ([name] ++ tokens e₂) := by
    rw [← hinner]
    exact tokens_append_run isRun_space h₁ (mt (leansBack_word_append hne hsolid e₂).1 hopens)
  rw [houter, List.append_assoc]
  exact resolveTokens_append_eq_ok_iff.2 ⟨_, _, hbefore, resolveTokens_append_eq_ok_iff.2
    ⟨_, _, resolveTokens_name hheld hfree, hbehind, rfl⟩, rfl⟩

/-- Raw parameters of as many semicolons as one likes. -/
def filler (n : Nat) : Text := '=' :: List.replicate n ';'

theorem solid_filler (n : Nat) : Solid (filler n) := by
  refine List.forall_mem_cons.2 ⟨rfl, fun c hc => ?_⟩
  rw [List.eq_of_mem_replicate hc]
  rfl

theorem filler_ne_nil (n : Nat) : filler n ≠ [] := List.cons_ne_nil _ _

theorem any_getLast?_filler (n : Nat) : (filler n).getLast?.any Char.isAlphanum = false := by
  rw [any_isAlphanum_eq_false]
  intro c hc
  rcases List.mem_cons.1 (List.mem_of_getLast? hc) with rfl | hmem
  · rfl
  · rw [List.eq_of_mem_replicate hmem]
    rfl

theorem not_leansForward_filler (n : Nat) : ¬ LeansForward (filler n) := by
  have hnot : ∀ {m}, IsModifier m → ¬ Closes m (filler n) := by
    intro m hm
    rw [← List.append_nil (filler n), closes_append_iff hm (any_getLast?_filler n)]
    exact not_closes_nil hm
  rw [leansForward_word (filler_ne_nil n) (solid_filler n)]
  exact fun hcloses => hcloses.elim (hnot isModifier_brightWord) (hnot isModifier_backgroundWord)

theorem not_leansBack_filler (n : Nat) : ¬ LeansBack (filler n) := by
  rintro ⟨w, hw, u, rfl, -⟩
  rw [Text.words_of_word (filler_ne_nil n) (solid_filler n)] at hw
  cases Option.some.inj hw

/-- A length that no token exceeds which is a keyword, a name or a true color. -/
structure Bounds (palette : Palette) (n : Nat) : Prop where
  /-- No true color does. -/
  color : 10 ≤ n
  /-- No keyword does. -/
  keyword : ∀ key ∈ Attribute.table.keys, key.length ≤ n
  /-- No name does. -/
  name : ∀ key ∈ palette.keys, key.length ≤ n

theorem exists_length_le (keys : List Text) : ∃ n, 10 ≤ n ∧ ∀ key ∈ keys, key.length ≤ n := by
  refine ⟨10 + keys.flatten.length, Nat.le_add_right .., fun key hkey => ?_⟩
  have hlength := (List.sublist_flatten_of_mem hkey).length_le
  omega

theorem exists_bounds (palette : Palette) : ∃ n, Bounds palette n := by
  obtain ⟨n, hcolor, hkeys⟩ := exists_length_le (Attribute.table.keys ++ palette.keys)
  exact ⟨n, hcolor, fun key hkey => hkeys key (List.mem_append_left _ hkey),
    fun key hkey => hkeys key (List.mem_append_right _ hkey)⟩

namespace Bounds

variable {palette : Palette} {n : Nat} (h : Bounds palette n)
include h

theorem get?_eq_none {t : Text} (ht : n < t.length) :
    Attribute.table.get? t = none ∧ palette.get? t = none := by
  rw [OrderedMap.get?_eq_none_iff, OrderedMap.get?_eq_none_iff]
  exact ⟨fun hkey => absurd (h.keyword t hkey) (Nat.not_le.2 ht),
    fun hkey => absurd (h.name t hkey) (Nat.not_le.2 ht)⟩

theorem matchWhole_hexScan_eq_none {t word : Text} (ht : n < t.length) (hword : word.length = 4) :
    Text.matchWhole (hexScan word) t = none := by
  rw [Option.eq_none_iff_forall_ne_some]
  intro parts hparts
  obtain ⟨_, _, _, _, _, _, rfl, -, -⟩ := matchWhole_hexScan_eq_some_iff.1 hparts
  have hten := h.color
  simp only [List.length_append, List.length_cons, List.length_nil, hword] at ht
  omega

/-- **A longer token with a low line in it is unknown,** for there is none in raw parameters. -/
theorem resolveToken_eq_none {t : Text} (ht : n < t.length) (hline : '_' ∈ t) :
    resolveToken Attribute.table palette t = none := by
  obtain ⟨hkeyword, hname⟩ := h.get?_eq_none ht
  have hraw : Text.matchWhole rawScan t = none := by
    rw [Option.eq_none_iff_forall_ne_some]
    intro parts hparts
    obtain ⟨params, rfl, ⟨-, hchars⟩, -⟩ := matchWhole_rawScan_eq_some_iff.1 hparts
    rcases List.mem_cons.1 hline with hequals | hmem
    · cases hequals
    · exact Bool.false_ne_true (hchars '_' hmem)
  simp only [resolveToken, hkeyword, hname, h.matchWhole_hexScan_eq_none ht (rfl : foregroundWord.length = 4),
    h.matchWhole_hexScan_eq_none ht (rfl : backgroundHexWord.length = 4), hraw, Option.map_none]

/-- A longer token that is raw parameters stands for them. -/
theorem resolveToken_of_raw {t params : Text} (ht : n < t.length)
    (hraw : Text.matchWhole rawScan t = some [some params]) :
    resolveToken Attribute.table palette t = some (some params) := by
  obtain ⟨hkeyword, hname⟩ := h.get?_eq_none ht
  simp only [resolveToken, hkeyword, hname, h.matchWhole_hexScan_eq_none ht (rfl : foregroundWord.length = 4),
    h.matchWhole_hexScan_eq_none ht (rfl : backgroundHexWord.length = 4), hraw]
  rfl

theorem resolveParams_filler :
    resolveParams Attribute.table palette (filler n) = .ok [List.replicate n ';'] := by
  have hlength : n < (filler n).length := by
    rw [filler, List.length_cons, List.length_replicate]
    exact Nat.lt_succ_self n
  have hparameter : Sgr.IsParameter (List.replicate n ';') := by
    refine ⟨fun hnil => ?_, fun c hc => ?_⟩
    · have hten := h.color
      rw [List.replicate_eq_nil_iff] at hnil
      omega
    · rw [List.eq_of_mem_replicate hc]
      rfl
  have htoken := h.resolveToken_of_raw hlength (matchWhole_rawScan_eq_some_iff.2 ⟨_, rfl, hparameter, rfl⟩)
  rw [resolveParams_eq_ok_iff, tokens_of_word (filler_ne_nil n) (solid_filler n), resolveTokens, htoken]
  rfl

/-- A name does not work between raw parameters if there is a long token with a low line. -/
theorem not_worksInside {name value token : Text}
    (htoken : token ∈ tokens (filler n ++ ' ' :: (name ++ ' ' :: filler n)))
    (hlength : n < token.length) (hline : '_' ∈ token) : ¬ WorksInside palette name value := by
  intro hworks
  have hok := hworks _ _ _ _ (not_leansForward_filler n) (not_leansBack_filler n) h.resolveParams_filler
    h.resolveParams_filler
  have hall := (resolveTokens_eq_ok_iff.1 (resolveParams_eq_ok_iff.1 hok)).1
  exact hall token htoken (h.resolveToken_eq_none hlength hline)

end Bounds

section Between

variable {name : Text} (n : Nat)

/-- Before a name that begins with `off`, raw parameters and the name become one token. -/
theorem exists_token_of_opens (hopens : Opens offWord name) :
    ∃ token ∈ tokens (filler n ++ ' ' :: (name ++ ' ' :: filler n)), n < token.length ∧ '_' ∈ token := by
  have hrest : Opens offWord (name ++ ' ' :: filler n) := (opens_append_iff isModifier_offWord rfl name).2 hopens
  have hstarts : StartsSolid (name ++ ' ' :: filler n) := by
    obtain ⟨u, hu, -⟩ := hrest
    rw [hu]
    exact isModifier_offWord.solid.startsSolid.append isModifier_offWord.ne_nil u
  have hjoined : tokens (filler n ++ ' ' :: (name ++ ' ' :: filler n)) =
      Text.words ((filler n ++ ['_']) ++ normalize (name ++ ' ' :: filler n)) := by
    have hrun := (joinsWhere_normalize.append_run local_joins (solid_filler n).endsSolid isRun_space hstarts).1
      (.inr hrest)
    rw [joinsWhere_normalize.word (solid_filler n)] at hrun
    rw [List.append_assoc]
    exact congrArg Text.words hrun
  have hsolid : Solid (filler n ++ ['_']) := (solid_filler n).append (List.forall_mem_singleton.2 rfl)
  obtain ⟨token, htoken, hprefix⟩ := Text.exists_mem_words_of_prefix hsolid
    (List.append_ne_nil_of_right_ne_nil _ (List.cons_ne_nil _ _)) (normalize (name ++ ' ' :: filler n))
  have hlength := hprefix.length_le
  simp only [filler, List.length_append, List.length_cons, List.length_replicate, List.length_nil] at hlength
  refine ⟨token, ?_, by omega, hprefix.subset (List.mem_append_right _ (List.mem_cons_self ..))⟩
  rw [hjoined]
  exact htoken

/-- Behind a name that ends with `bright` or `bg`, the name and raw parameters become one token. -/
theorem exists_token_of_closes (hne : name ≠ []) (hsolid : Solid name) (hcloses : ClosesAny name) :
    ∃ token ∈ tokens (filler n ++ ' ' :: (name ++ ' ' :: filler n)), n < token.length ∧ '_' ∈ token := by
  have hbefore : (filler n ++ [' ']).getLast?.any Char.isAlphanum = false :=
    isRun_space.any_getLast?_append (filler n)
  have hfirst : ClosesAny ((filler n ++ [' ']) ++ name) :=
    (or_congr (closes_append_iff isModifier_brightWord hbefore name)
      (closes_append_iff isModifier_backgroundWord hbefore name)).2 hcloses
  have hjoined : tokens (filler n ++ ' ' :: (name ++ ' ' :: filler n)) =
      Text.words (normalize ((filler n ++ [' ']) ++ name) ++ '_' :: filler n) := by
    have hrun := (joinsWhere_normalize.append_run local_joins (hsolid.endsSolid.append hne _) isRun_space
      (solid_filler n).startsSolid).1 (.inl hfirst)
    rw [joinsWhere_normalize.word (solid_filler n)] at hrun
    rw [← hrun]
    simp only [tokens, List.append_assoc, List.cons_append, List.nil_append]
  have hline : Solid ('_' :: filler n) := List.forall_mem_cons.2 ⟨rfl, solid_filler n⟩
  obtain ⟨token, htoken, hsuffix⟩ := Text.exists_mem_words_of_suffix hline (List.cons_ne_nil _ _)
    (normalize ((filler n ++ [' ']) ++ name))
  have hlength := hsuffix.length_le
  simp only [filler, List.length_cons, List.length_replicate] at hlength
  refine ⟨token, ?_, by omega, hsuffix.subset (List.mem_cons_self ..)⟩
  rw [hjoined]
  exact htoken

end Between

/-- **A palette name works inside expressions exactly if the normal form finds no modifier in it:** it does not
end with `bright` or `bg`, after no ASCII letter or digit, and does not begin with `off`, before no ASCII
letter or digit.  This is so for every palette and each of its names, unless it is a keyword. -/
theorem worksInside_iff {palette : Palette} (hsound : palette.Sound) {name value : Text}
    (hheld : palette.get? name = some value) (hfree : Attribute.table.get? name = none) :
    WorksInside palette name value ↔ ¬ ClosesAny name ∧ ¬ Opens offWord name := by
  have hword : name ∈ Text.words name := by
    rw [hsound.names _ (OrderedMap.mem_of_get? hheld)]
    exact List.mem_singleton.2 rfl
  obtain ⟨hne, hsolid⟩ := Text.not_isBlank_of_mem_words hword
  constructor
  · intro hworks
    obtain ⟨n, hn⟩ := exists_bounds palette
    constructor
    · intro hcloses
      obtain ⟨token, htoken, hlength, hline⟩ := exists_token_of_closes n hne hsolid hcloses
      exact hn.not_worksInside htoken hlength hline hworks
    · intro hopens
      obtain ⟨token, htoken, hlength, hline⟩ := exists_token_of_opens n hopens
      exact hn.not_worksInside htoken hlength hline hworks
  · rintro ⟨hcloses, hopens⟩
    exact worksInside_of_whole hne hsolid hheld hfree hcloses hopens

/-- A palette with a name that is a whole word, and one that begins with `off` and a hyphen. -/
def whites : Palette := [("pale-white".toList, "2;97".toList), ("off-white".toList, "97".toList)]

theorem sound_whites : whites.Sound := by
  have hput : Palette.Sound (OrderedMap.put (OrderedMap.put [] "pale-white".toList "2;97".toList)
      "off-white".toList "97".toList) :=
    (Palette.Sound.nil.put (by decide) (List.all_eq_true.1 (by decide))).put (by decide)
      (List.all_eq_true.1 (by decide))
  exact hput

theorem get?_offWhite : Attribute.table.get? "off-white".toList = none :=
  Attribute.get?_eq_none_of_hyphen (by decide) (by decide)

/-- Of the two names one works inside expressions and the other does not. -/
theorem worksInside_iff_whites :
    whites.Sound ∧ Attribute.table.get? "pale-white".toList = none ∧
    Attribute.table.get? "off-white".toList = none ∧
    WorksInside whites "pale-white".toList "2;97".toList ∧
    ¬ WorksInside whites "off-white".toList "97".toList := by
  have hfree : Attribute.table.get? "pale-white".toList = none :=
    Attribute.get?_eq_none_of_hyphen (by decide) (by decide)
  refine ⟨sound_whites, hfree, get?_offWhite, ?_, ?_⟩
  · exact (worksInside_iff sound_whites rfl hfree).2 ⟨by decide, by decide⟩
  · intro hworks
    exact ((worksInside_iff sound_whites rfl get?_offWhite).1 hworks).2 (by decide)

/-- **Not every name works inside expressions:** `off-white` is in the palette and stands for its value alone,
but behind `bold` it is a part of a token that is unknown. -/
theorem not_worksInside_offWhite :
    whites.get? "off-white".toList = some "97".toList ∧ Attribute.table.get? "off-white".toList = none ∧
    ¬ LeansForward "bold".toList ∧ ¬ LeansBack "dim".toList ∧
    resolveParams Attribute.table whites "bold".toList = .ok ["1".toList] ∧
    resolveParams Attribute.table whites "dim".toList = .ok ["2".toList] ∧
    resolveParams Attribute.table whites "off-white".toList = .ok ["97".toList] ∧
    resolveParams Attribute.table whites "bold off-white dim".toList =
      .error ⟨"bold_off-white".toList, "bold off-white dim".toList⟩ ∧
    ¬ WorksInside whites "off-white".toList "97".toList := by
  have hforward : ¬ LeansForward "bold".toList := by decide
  have hback : ¬ LeansBack "dim".toList := by decide
  have hbold : resolveParams Attribute.table whites "bold".toList = .ok ["1".toList] := rfl
  have hdim : resolveParams Attribute.table whites "dim".toList = .ok ["2".toList] := rfl
  have halone : resolveParams Attribute.table whites "off-white".toList = .ok ["97".toList] := by
    have hheld : whites.get? "off-white".toList = some "97".toList := rfl
    have htokens : tokens "off-white".toList = ["off-white".toList] := by decide
    rw [resolveParams_eq_ok_iff, htokens]
    exact resolveTokens_name hheld get?_offWhite
  have hunknown : Unknown whites "bold_off-white".toList :=
    ⟨OrderedMap.get?_eq_none_iff.1 (Attribute.get?_eq_none_of_hyphen (by decide) (by decide)), by decide,
      by decide, by decide, by decide⟩
  have hfails : resolveParams Attribute.table whites "bold off-white dim".toList =
      .error ⟨"bold_off-white".toList, "bold off-white dim".toList⟩ := by
    have htokens : tokens "bold off-white dim".toList = ["bold_off-white".toList, "dim".toList] := by decide
    rw [resolveParams, htokens, resolveTokens, resolveToken_eq_none_iff_unknown.2 hunknown]
  refine ⟨rfl, get?_offWhite, hforward, hback, hbold, hdim, halone, hfails, fun hworks => ?_⟩
  have hclash := hfails.symm.trans (hworks _ _ _ _ hforward hback hbold hdim)
  cases hclash

end Expression
end TermStyle
