/-
# The keywords

Most keywords are names of colors, made of a word and numbers, and only the rest are listed one by one.  What
is to be shown of all attributes is shown of the list and of any color (`forall_mem_table`).

No keyword begins or ends with a low line (`unlined_table`).  So a low line more, in front or behind, makes of
every token one that the table does not have.
-/

import TermStyle.Attribute

namespace TermStyle
namespace Attribute

/-- **What holds of the named attributes and of every color holds of the whole table.**  The name of a color
begins with a letter, no low line, and ends with a number. -/
theorem forall_mem_table {P : Text × Option Parameter → Prop} (hnamed : ∀ e ∈ named, P e)
    (hcolor : ∀ initial, initial ≠ '_' → ∀ word n index, ∀ e ∈ color (initial :: word ++ Text.digits n) index, P e) :
    ∀ e ∈ table, P e := by
  intro e he
  rcases List.mem_append.1 he with he | hgray
  · rcases List.mem_append.1 he with he | hcube
    · rcases List.mem_append.1 he with hlisted | hindexed
      · exact hnamed e hlisted
      · obtain ⟨i, -, hi⟩ := List.mem_flatMap.1 hindexed
        exact hcolor 'c' (by decide) "olor".toList i i e hi
    · obtain ⟨r, -, hr⟩ := List.mem_flatMap.1 hcube
      obtain ⟨g, -, hg⟩ := List.mem_flatMap.1 hr
      obtain ⟨b, -, hb⟩ := List.mem_flatMap.1 hg
      exact hcolor 'r' (by decide) ("gb".toList ++ Text.digits r ++ Text.digits g) b _ e hb
  · obtain ⟨s, -, hs⟩ := List.mem_flatMap.1 hgray
    exact hcolor 'g' (by decide) "ray".toList s _ e hs

/-- **A word that modifies its neighbours says nothing alone,** whatever else is in the table. -/
theorem get?_modifier : ∀ e ∈ modifiers, table.get? e.1 = some none := by
  decide +kernel

/-- Whether a word neither begins nor ends with a low line. -/
def Unlined (word : Text) : Prop := word.head? ≠ some '_' ∧ word.getLast? ≠ some '_'

instance (word : Text) : Decidable (Unlined word) := inferInstanceAs (Decidable (_ ∧ _))

/-- A word with a number behind it ends with a digit. -/
theorem exists_digit_of_append_digits (word : Text) (n : Nat) :
    ∃ d, (word ++ Text.digits n).getLast? = some d ∧ d.isDigit = true := by
  obtain ⟨d, hd⟩ := Option.ne_none_iff_exists'.1 fun hnone =>
    Nat.toDigits_ne_nil (List.getLast?_eq_none_iff.1 hnone : Nat.toDigits 10 n = [])
  refine ⟨d, ?_, Nat.isDigit_of_mem_toDigits (by decide) (by decide) (List.mem_of_getLast? hd)⟩
  rw [List.getLast?_append, Text.digits, hd]
  rfl

/-- A number behind a word that begins with a letter leaves no low line at the ends. -/
theorem unlined_append_digits {initial : Char} (hinitial : initial ≠ '_') (word : Text) (n : Nat) :
    Unlined (initial :: word ++ Text.digits n) := by
  refine ⟨fun hline => hinitial (Option.some.inj hline), fun hline => ?_⟩
  obtain ⟨d, hlast, hdigit⟩ := exists_digit_of_append_digits (initial :: word) n
  rw [Option.some.inj (hlast.symm.trans hline)] at hdigit
  cases hdigit

theorem unlined_color {initial : Char} (hinitial : initial ≠ '_') (word : Text) (n index : Nat) :
    ∀ e ∈ color (initial :: word ++ Text.digits n) index, Unlined e.1 := by
  intro e he
  simp only [color, List.mem_cons, List.not_mem_nil, or_false] at he
  rcases he with rfl | rfl | rfl
  · exact unlined_append_digits hinitial word n
  · exact unlined_append_digits (by decide) ("g_".toList ++ initial :: word) n
  · exact unlined_append_digits (by decide) ("nderline_".toList ++ initial :: word) n

/-- The keywords that are listed have no low line at the ends and no hyphen at all. -/
theorem unlined_named : ∀ e ∈ named, Unlined e.1 ∧ '-' ∉ e.1 := by
  decide +kernel

/-- **No keyword begins or ends with a low line.** -/
theorem unlined_table : ∀ e ∈ table, Unlined e.1 :=
  forall_mem_table (fun e he => (unlined_named e he).1) fun _ hinitial => unlined_color hinitial

theorem get?_eq_none_of_lined {t : Text} (h : ¬ Unlined t) : table.get? t = none := by
  rw [OrderedMap.get?_eq_none_iff]
  intro hkey
  obtain ⟨e, he, rfl⟩ := List.mem_map.1 hkey
  exact h (unlined_table e he)

theorem get?_line_cons (t : Text) : table.get? ('_' :: t) = none :=
  get?_eq_none_of_lined fun h => h.1 rfl

theorem get?_concat_line (t : Text) : table.get? (t ++ ['_']) = none :=
  get?_eq_none_of_lined fun h => h.2 List.getLast?_concat

/-- **A keyword is listed by name, or it is the name of a color and ends with a digit.** -/
theorem named_or_numbered :
    ∀ e ∈ table, e ∈ named ∨ ∃ d, e.1.getLast? = some d ∧ d.isDigit = true := by
  refine forall_mem_table (fun e he => .inl he) fun initial _ word n index e he => .inr ?_
  simp only [color, List.mem_cons, List.not_mem_nil, or_false] at he
  rcases he with rfl | rfl | rfl
  · exact exists_digit_of_append_digits (initial :: word) n
  · exact exists_digit_of_append_digits ("bg_".toList ++ initial :: word) n
  · exact exists_digit_of_append_digits ("underline_".toList ++ initial :: word) n

/-- What has a hyphen in it and does not end with a digit is no keyword. -/
theorem get?_eq_none_of_hyphen {t : Text} (hhyphen : '-' ∈ t) (hlast : t.getLast?.any Char.isDigit = false) :
    table.get? t = none := by
  rw [OrderedMap.get?_eq_none_iff]
  intro hkey
  obtain ⟨e, he, rfl⟩ := List.mem_map.1 hkey
  rcases named_or_numbered e he with hlisted | ⟨d, hd, hdigit⟩
  · exact (unlined_named e hlisted).2 hhyphen
  · rw [hd, Option.any_some, hdigit] at hlast
    cases hlast

end Attribute
end TermStyle
