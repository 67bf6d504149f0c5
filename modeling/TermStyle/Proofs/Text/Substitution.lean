/-
# Plain substitution

The simplest way to replace a word in a text: go over the text from the left, and wherever the word begins,
put another text in its place and go on behind the word (`substitute`).

| the text | what is made of it |
| --- | --- |
| begins with the word | the other text, and what is made of the rest behind the word (`substitute_append`) |
| begins with a character that does not begin the word | this character, and what is made of the rest (`substitute_cons`) |

A stretch of characters none of which can begin the word stays as it is (`substitute_append_of_not_mem`).

The forms of the library are replaced by a scan, which can find many words at once.  To compare the two,
`Scanner.Finds.prefix_of_prefix_replace` says what a scan leaves at the beginning of a text: where a text has
none of the characters that replacements begin with, it was there before.
-/

import TermStyle.Proofs.Text.Forms

namespace TermStyle
namespace Text

/-- The text with a word replaced wherever it is found, from the left.  The first `skip` characters belong to
a word that was replaced already. -/
def substituteFrom (word instead : Text) : Nat → Text → Text
  | _, [] => []
  | skip + 1, _ :: rest => substituteFrom word instead skip rest
  | 0, c :: rest =>
    if word <+: c :: rest then instead ++ substituteFrom word instead (word.length - 1) rest
    else c :: substituteFrom word instead 0 rest

/-- The text with a word, which is not empty, replaced wherever it is found, from the left. -/
def substitute (word instead t : Text) : Text := substituteFrom word instead 0 t

variable (word instead : Text)

@[simp] theorem substitute_nil : substitute word instead [] = [] := rfl

theorem substituteFrom_eq (skip : Nat) (t : Text) :
    substituteFrom word instead skip t = substitute word instead (t.drop skip) := by
  induction t generalizing skip with
  | nil => cases skip <;> rfl
  | cons c rest ih =>
    cases skip with
    | zero => rfl
    | succ skip => exact ih skip

variable {word}

/-- **A word gives way** to the other text. -/
theorem substitute_append (hword : word ≠ []) (rest : Text) :
    substitute word instead (word ++ rest) = instead ++ substitute word instead rest := by
  obtain ⟨c, word, rfl⟩ := List.exists_cons_of_ne_nil hword
  have hthere : c :: word <+: c :: (word ++ rest) := List.prefix_append (c :: word) rest
  rw [List.cons_append, substitute, substituteFrom, if_pos hthere, substituteFrom_eq, List.length_cons,
    Nat.add_sub_cancel, List.drop_left]

/-- Of two places that overlap, the first one counts. -/
example : substitute "aa".toList "b".toList "aaa".toList = "ba".toList := by decide

/-- **A character stays** where the word does not begin. -/
theorem substitute_cons {c : Char} {rest : Text} (hnot : ¬ word <+: c :: rest) :
    substitute word instead (c :: rest) = c :: substitute word instead rest := by
  rw [substitute, substituteFrom, if_neg hnot, substitute]

/-- Characters with which the word does not begin stay. -/
theorem substitute_append_of_not_mem {first : Char} (hfirst : word.head? = some first) {w : Text}
    (hw : first ∉ w) (rest : Text) :
    substitute word instead (w ++ rest) = w ++ substitute word instead rest := by
  obtain ⟨more, rfl⟩ := List.head?_eq_some_iff.1 hfirst
  induction w with
  | nil => rfl
  | cons c w ih =>
    obtain ⟨hc, hw⟩ := not_or.1 (mt List.mem_cons.2 hw)
    have hnot : ¬ first :: more <+: c :: (w ++ rest) := fun hpre => hc (List.cons_prefix_cons.1 hpre).1
    rw [List.cons_append, substitute_cons instead hnot, ih hw, List.cons_append]

/-- **What stands at the beginning after a replacement was there before,** if it has no character that
replacements begin with.  A hit that is put back is no replacement. -/
theorem Scanner.Finds.prefix_of_prefix_replace {scan : Scanner} {form : Text → List (Option Text) → Prop}
    (h : scan.Finds form) {instead : Text → List (Option Text) → Text} {first : Char}
    (hinstead : ∀ w groups, form w groups → instead w groups = w ∨ (instead w groups).head? = some first)
    {p : Text} (hp : first ∉ p) (t : Text) (hpre : p <+: replace scan instead t) : p <+: t := by
  induction t using h.induction generalizing p with
  | nil =>
    rw [h.replace_nil] at hpre
    exact hpre
  | plain c rest hnot ih =>
    rw [h.replace_cons instead hnot] at hpre
    cases p with
    | nil => exact List.nil_prefix
    | cons d p =>
      obtain ⟨rfl, hrest⟩ := List.cons_prefix_cons.1 hpre
      exact List.cons_prefix_cons.2 ⟨rfl, ih (fun hm => hp (List.mem_cons_of_mem _ hm)) hrest⟩
  | hit w groups rest hw ih =>
    rw [h.replace_append_form instead hw] at hpre
    rcases hinstead w groups hw with hsame | hhead
    · -- The hit was put back: what stands here ends in it, or goes on behind it.
      rw [hsame] at hpre
      obtain ⟨after, hafter⟩ := hpre
      rcases List.append_eq_append_iff.1 hafter with ⟨v, rfl, -⟩ | ⟨q, rfl, hq⟩
      · exact (List.prefix_append p v).trans (List.prefix_append _ rest)
      · have hrest := ih (fun hm => hp (List.mem_append_right w hm)) ⟨after, hq.symm⟩
        exact (List.prefix_append_right_inj w).2 hrest
    · obtain ⟨more, hmore⟩ := List.head?_eq_some_iff.1 hhead
      cases p with
      | nil => exact List.nil_prefix
      | cons d p =>
        rw [hmore] at hpre
        obtain ⟨rfl, -⟩ := List.cons_prefix_cons.1 hpre
        exact absurd (List.mem_cons_self ..) hp

end Text
end TermStyle
