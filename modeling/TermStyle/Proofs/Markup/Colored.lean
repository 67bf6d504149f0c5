/-
# Colors that are stripped again

Bridged with colors, a text has a sequence in the place of each known tag; bridged without, it has nothing there.
So the one is the other with sequences strewn in (`strewn_bridge`), and stripping takes at least these out
(`strip_bridge_sublist`).  What else it takes out was a sequence of the text:

| text | bridged with colors, then stripped | bridged without colors |
| --- | --- | --- |
| `<<b>i></i>` | `<i>` | `<i>` |
| escape `[<b>1m` | escape `[1m` | escape `[1m` |
| escape `[1m<b>x` | `x` | escape `[1mx` |

In the second line the sequence of the tag comes between the bracket and its parameters, and no sequence lies
across the escape character of another one.  So the two agree exactly where the text has no sequence of its own
(`strip_bridge_eq_iff`), and it has none where it has no escape character.
-/

import TermStyle.Proofs.Markup.KnownTags
import TermStyle.Proofs.Text.Substitution

namespace TermStyle

namespace Sgr

/-- Where there is no escape character, there is no sequence. -/
theorem not_occurs_of_escape_not_mem {t : Text} (ht : escape ∉ t) : ¬ Occurs t := by
  rintro ⟨w, hw, hin⟩
  exact ht (hin.subset hw.escape_mem)

/-- **Stripping takes out at least the sequences that were strewn in,** and leaves the rest in order. -/
theorem strip_strewn_sublist {x v : Text} (h : Text.Strewn IsSequence x v) : (strip v).Sublist x := by
  induction h with
  | nil => exact List.Sublist.refl []
  | @char c x v _ ih =>
    by_cases hbegins : Text.Begins (fun w groups => IsSequence w ∧ groups = []) (c :: v)
    · -- What the sequence takes of the text behind this character would be left there without the character.
      obtain ⟨w, groups, ⟨hw, -⟩, rest, hrest⟩ := hbegins
      obtain ⟨d, more, rfl⟩ := List.exists_cons_of_ne_nil hw.ne_nil
      rw [List.cons_append] at hrest
      obtain ⟨rfl, rfl⟩ := List.cons.inj hrest
      have hescape : escape ∉ more := hw.escape_not_mem_tail
      rw [← List.cons_append, strip_sequence_append hw]
      rw [strip_append_of_escape_not_mem hescape] at ih
      exact ((List.sublist_append_right more _).trans ih).cons d
    · have hcons : strip (c :: v) = c :: strip v := finds_scan.replace_cons _ hbegins
      rw [hcons]
      exact ih.cons_cons c
  | junk hj _ ih =>
    rw [strip_sequence_append hj]
    exact ih

end Sgr

namespace Markup

open Text (Begins Strewn)

/-- **A known tag gives way to a sequence,** and without colors to nothing. -/
theorem bridge_known_append {w : Text} {groups : List (Option Text)} (hw : Known w groups) (rest : Text) :
    ∃ sequence, Sgr.IsSequence sequence ∧ bridge true (w ++ rest) = sequence ++ bridge true rest ∧
      bridge false (w ++ rest) = bridge false rest := by
  obtain ⟨name, sequence, rfl, -, hname⟩ := hw
  have hshape : '<' :: (name ++ ['>']) ++ rest = '<' :: (name ++ '>' :: rest) := by simp
  rw [hshape]
  exact ⟨sequence, isSequence_of_get? hname, bridge_tag hname true rest, bridge_tag hname false rest⟩

/-- **With colors a text is bridged as without them,** but for sequences that are strewn in. -/
theorem strewn_bridge (t : Text) : Strewn Sgr.IsSequence (bridge false t) (bridge true t) := by
  induction t using finds_knownScan.induction with
  | nil =>
    rw [bridge_nil, bridge_nil]
    exact .nil
  | plain c rest hnot ih =>
    rw [bridge_cons false hnot, bridge_cons true hnot]
    exact .char c ih
  | hit w groups rest hw ih =>
    obtain ⟨sequence, hsequence, hcolored, hplain⟩ := bridge_known_append hw rest
    rw [hcolored, hplain]
    exact .junk hsequence ih

/-- What is left when colors are stripped is left without colors. -/
theorem strip_bridge_sublist (t : Text) : (Sgr.strip (bridge true t)).Sublist (bridge false t) :=
  Sgr.strip_strewn_sublist (strewn_bridge t)

/-- **No sequence comes in across a color:** one that begins before bridged text began there before. -/
theorem begins_of_begins_bridge {c : Char} {rest : Text}
    (h : Begins (fun w groups => Sgr.IsSequence w ∧ groups = []) (c :: bridge true rest)) :
    Begins (fun w groups => Sgr.IsSequence w ∧ groups = []) (c :: rest) := by
  obtain ⟨w, groups, hw, hpre⟩ := h
  obtain ⟨d, more, rfl⟩ := List.exists_cons_of_ne_nil hw.1.ne_nil
  obtain ⟨rfl, htail⟩ := List.cons_prefix_cons.1 hpre
  refine ⟨_, groups, hw, List.cons_prefix_cons.2 ⟨rfl, ?_⟩⟩
  rw [bridge_eq] at htail
  refine finds_knownScan.prefix_of_prefix_replace (fun w groups hw => .inr ?_) hw.1.escape_not_mem_tail rest
    htail
  obtain ⟨name, sequence, -, rfl, hname⟩ := hw
  rw [shown_known hname]
  exact (isSequence_of_get? hname).head?

/-- A text can be bridged in parts, cut around a sequence. -/
theorem bridge_append_sequence (colorize : Bool) {w : Text} (hw : Sgr.IsSequence w) (a b : Text) :
    bridge colorize (a ++ (w ++ b)) = bridge colorize a ++ (w ++ bridge colorize b) := by
  have hopen : '<' ∉ w := fun hm => absurd (hw.forall_mem _ hm) (by decide)
  have hcut : ∀ v groups, Known v groups → Sgr.escape ∉ v.tail := fun v groups hv hm =>
    hv.escape_not_mem (List.mem_of_mem_tail hm)
  have hparts : bridge colorize (a ++ (w ++ b)) = bridge colorize a ++ bridge colorize (w ++ b) := by
    obtain ⟨more, rfl⟩ := List.head?_eq_some_iff.1 hw.head?
    rw [bridge_eq, bridge_eq, bridge_eq]
    exact finds_knownScan.replace_append_cons _ hcut a (more ++ b)
  rw [hparts, bridge_append_of_not_mem colorize hopen]

/-- Where a text has no sequence, colors can be stripped again. -/
theorem strip_bridge_of_not_occurs {t : Text} (h : ¬ Sgr.Occurs t) :
    Sgr.strip (bridge true t) = bridge false t := by
  induction t using finds_knownScan.induction with
  | nil => rw [bridge_nil, bridge_nil, Sgr.strip_nil]
  | plain c rest hnot ih =>
    have hbegins : ¬ Begins (fun w groups => Sgr.IsSequence w ∧ groups = []) (c :: bridge true rest) := by
      intro hcolored
      obtain ⟨w, _, ⟨hw, -⟩, hpre⟩ := begins_of_begins_bridge hcolored
      exact h ⟨w, hw, hpre.isInfix⟩
    have hcons : Sgr.strip (c :: bridge true rest) = c :: Sgr.strip (bridge true rest) :=
      Sgr.finds_scan.replace_cons _ hbegins
    have hrest : ¬ Sgr.Occurs rest := fun ⟨w, hw, hin⟩ => h ⟨w, hw, List.infix_cons hin⟩
    rw [bridge_cons true hnot, bridge_cons false hnot, hcons, ih hrest]
  | hit w groups rest hw ih =>
    have hrest : ¬ Sgr.Occurs rest := fun ⟨v, hv, hin⟩ =>
      h ⟨v, hv, hin.trans (List.suffix_append w rest).isInfix⟩
    obtain ⟨sequence, hsequence, hcolored, hplain⟩ := bridge_known_append hw rest
    rw [hcolored, hplain, Sgr.strip_sequence_append hsequence, ih hrest]

/-- **To strip colors is to bridge without them** exactly where the text has no sequence of its own. -/
theorem strip_bridge_eq_iff (t : Text) : Sgr.strip (bridge true t) = bridge false t ↔ ¬ Sgr.Occurs t := by
  refine ⟨?_, strip_bridge_of_not_occurs⟩
  rintro hsame ⟨w, hw, a, b, rfl⟩
  have hstrip : Sgr.strip (bridge true a ++ (w ++ bridge true b)) =
      Sgr.strip (bridge true a) ++ Sgr.strip (bridge true b) := by
    rw [← Sgr.strip_sequence_append hw (bridge true b)]
    obtain ⟨more, rfl⟩ := List.head?_eq_some_iff.1 hw.head?
    exact Sgr.strip_append_escape _ _
  rw [List.append_assoc, bridge_append_sequence true hw, bridge_append_sequence false hw, hstrip] at hsame
  have hlength := congrArg List.length hsame
  simp only [List.length_append] at hlength
  have ha := (strip_bridge_sublist a).length_le
  have hb := (strip_bridge_sublist b).length_le
  have hpos := List.length_pos_iff.2 hw.ne_nil
  omega

/-- **To strip colors is to bridge without them,** for a text without escape characters. -/
theorem strip_bridge_of_escape_not_mem {t : Text} (h : Sgr.escape ∉ t) :
    Sgr.strip (bridge true t) = bridge false t :=
  (strip_bridge_eq_iff t).2 (Sgr.not_occurs_of_escape_not_mem h)

/-- A known tag inside of another one, tags side by side, an unknown one, and what looks like the end of a
sequence. -/
theorem strip_bridge_nested :
    Sgr.escape ∉ "<<b>i><sub></sub>[1m<B>x</i>".toList ∧
    Sgr.strip (bridge true "<<b>i><sub></sub>[1m<B>x</i>".toList) =
      bridge false "<<b>i><sub></sub>[1m<B>x</i>".toList ∧
    bridge false "<<b>i><sub></sub>[1m<B>x</i>".toList = "<i>[1m<B>x".toList := by
  have hescape : Sgr.escape ∉ "<<b>i><sub></sub>[1m<B>x</i>".toList := by decide
  exact ⟨hescape, strip_bridge_of_escape_not_mem hescape, by decide⟩

end Markup
end TermStyle
