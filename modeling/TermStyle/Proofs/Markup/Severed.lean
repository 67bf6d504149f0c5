/-
# Tags with sequences inside

Take a text without escape characters, and strew sequences into it.  Bridged without colors, the plain
text loses its known tags.  Bridged with colors and stripped, the text with the sequences loses those
that are still in one piece; a tag with a sequence inside of it is no tag any more (`Severed`), and
its characters stay.

| text with sequences | bridged and stripped | plain text, bridged |
| --- | --- | --- |
| `<b>` escape `[1m` `x` | `x` | `x` |
| `<` escape `[1m` `b>x` | `<b>x` | `x` |

So the two agree exactly where no tag is severed (`visible_strewn`).  The text with the sequences
never loses more than the plain one, so what a severed tag leaves is not made up for elsewhere.
-/

import TermStyle.Proofs.Markup.KnownTags

namespace TermStyle
namespace Markup

open Text (Strewn)

/-- What can be read of a text after it was bridged with colors. -/
def visible (t : Text) : Text := Sgr.strip (bridge true t)

/-- Whether a severed tag stands at the beginning: a known tag with sequences strewn into it. -/
def BeginsSevered (t : Text) : Prop :=
  ∃ name v, (∃ sequence, tags.get? name = some sequence) ∧ Strewn Sgr.IsSequence name v ∧ v ≠ name ∧
    '<' :: (v ++ ['>']) <+: t

/-- Whether a severed tag stands somewhere in a text. -/
def Severed (t : Text) : Prop := ∃ u, BeginsSevered u ∧ u <:+ t

theorem severed_nil : ¬ Severed [] := by
  rintro ⟨u, ⟨name, v, -, -, -, hpre⟩, hsuf⟩
  rw [List.suffix_nil.1 hsuf] at hpre
  exact absurd (List.prefix_nil.1 hpre) (List.cons_ne_nil _ _)

theorem severed_cons {c : Char} {t : Text} : Severed (c :: t) ↔ BeginsSevered (c :: t) ∨ Severed t := by
  constructor
  · rintro ⟨u, hu, hsuf⟩
    rcases List.suffix_cons_iff.1 hsuf with rfl | hsuf
    · exact .inl hu
    · exact .inr ⟨u, hu, hsuf⟩
  · rintro (h | ⟨u, hu, hsuf⟩)
    · exact ⟨_, h, List.suffix_rfl⟩
    · exact ⟨u, hu, hsuf.trans (List.suffix_cons c t)⟩

/-- A severed tag begins with `<`. -/
theorem severed_append {u : Text} (hu : '<' ∉ u) (t : Text) : Severed (u ++ t) ↔ Severed t := by
  induction u with
  | nil => rfl
  | cons c u ih =>
    rw [List.cons_append, severed_cons, ih fun h => hu (List.mem_cons_of_mem _ h)]
    refine or_iff_right ?_
    rintro ⟨name, v, -, -, -, hpre⟩
    obtain ⟨rfl, -⟩ := List.cons_prefix_cons.1 hpre
    exact hu (List.mem_cons_self ..)

/-- The characters of a name: all but angle brackets and the escape character. -/
theorem plain_name {name sequence : Text} (h : tags.get? name = some sequence) :
    '<' ∉ name ∧ '>' ∉ name ∧ Sgr.escape ∉ name := by
  have hsound := (tags_sound _ (OrderedMap.mem_of_get? h)).1
  refine ⟨fun hc => ?_, fun hc => ?_, fun hc => (hsound _ hc).2 rfl⟩ <;>
    exact absurd (hsound _ hc).1 (by decide)

/-- What is strewn into a text without angle brackets can be read off at its beginning. -/
theorem visible_strewn_append {x v : Text} (h : Strewn Sgr.IsSequence x v) (hopen : '<' ∉ x)
    (hescape : Sgr.escape ∉ x) (t : Text) : visible (v ++ t) = x ++ visible t := by
  rw [visible, bridge_append_of_not_mem true (Sgr.not_mem_strewn h (by decide) hopen),
    Sgr.strip_strewn_append h hescape, visible]

theorem visible_cons {c : Char} (hc : c ≠ Sgr.escape) {t : Text}
    (hnot : ¬ Text.Begins Known (c :: t)) : visible (c :: t) = c :: visible t := by
  rw [visible, bridge_cons true hnot]
  exact Sgr.strip_append_of_escape_not_mem (t := [c]) (by simpa using hc.symm) _

theorem visible_tag {name sequence : Text} (hname : tags.get? name = some sequence) (t : Text) :
    visible ('<' :: (name ++ '>' :: t)) = visible t := by
  rw [visible, bridge_tag hname, if_pos rfl, Sgr.strip_sequence_append (isSequence_of_get? hname),
    visible]

/-- Where something is strewn in, there is an escape character. -/
theorem escape_mem_of_ne {x v : Text} (h : Strewn Sgr.IsSequence x v) (hx : Sgr.escape ∉ x)
    (hne : v ≠ x) : Sgr.escape ∈ v := by
  refine Classical.byContradiction fun hv => hne ?_
  exact (Sgr.strip_of_escape_not_mem hv).symm.trans (Sgr.strip_strewn h hx)

/-- A severed tag has a known tag in its place in the plain text. -/
theorem begins_of_beginsSevered {plain t : Text} (h : Strewn Sgr.IsSequence plain t)
    (hplain : Sgr.escape ∉ plain) (hsevered : BeginsSevered t) : Text.Begins Known plain := by
  obtain ⟨name, v, ⟨sequence, hname⟩, hv, -, rest, rfl⟩ := hsevered
  have htag : Strewn Sgr.IsSequence ('<' :: (name ++ ['>'])) ('<' :: (v ++ ['>'])) :=
    .char '<' (hv.append (.refl _))
  have hescape : Sgr.escape ∉ '<' :: (name ++ ['>']) := by
    simp only [List.mem_cons, List.mem_append, List.not_mem_nil, or_false, not_or]
    exact ⟨by decide, (plain_name hname).2.2, by decide⟩
  have hread := Sgr.strip_strewn_append htag hescape rest
  rw [Sgr.strip_strewn h hplain] at hread
  exact ⟨_, _, ⟨name, sequence, rfl, rfl, hname⟩, Sgr.strip rest, hread.symm⟩

/-- Where a known tag stands, no severed tag does. -/
theorem not_beginsSevered_tag {name sequence : Text} (hname : tags.get? name = some sequence) (t : Text) :
    ¬ BeginsSevered ('<' :: (name ++ '>' :: t)) := by
  rintro ⟨other, v, ⟨_, hother⟩, hv, hne, hpre⟩
  have hclose : '>' ∉ v := Sgr.not_mem_strewn hv (by decide) (plain_name hother).2.1
  have hescape := escape_mem_of_ne hv (plain_name hother).2.2 hne
  obtain ⟨-, hpre⟩ := List.cons_prefix_cons.1 hpre
  rcases Text.prefix_cut hclose hpre with rfl | hpre
  · exact (plain_name hname).2.2 hescape
  · exact (plain_name hname).2.2 (hpre.subset (List.mem_append_left _ hescape))

/-- **All characters of a severed tag can be read.** -/
theorem visible_severed {name v sequence : Text} (hname : tags.get? name = some sequence)
    (hv : Strewn Sgr.IsSequence name v) (hne : v ≠ name) (t : Text) :
    visible ('<' :: (v ++ '>' :: t)) = '<' :: (name ++ '>' :: visible t) := by
  have hunknown : v ∉ tags.keys := by
    rw [← OrderedMap.get?_eq_none_iff, Option.eq_none_iff_forall_ne_some]
    exact fun _ hv' => (plain_name hv').2.2 (escape_mem_of_ne hv (plain_name hname).2.2 hne)
  have hnot := not_begins_tag (Sgr.not_mem_strewn hv (by decide) (plain_name hname).2.1) hunknown t
  rw [visible_cons (by decide) hnot,
    visible_strewn_append hv (plain_name hname).1 (plain_name hname).2.2,
    visible_cons (by decide) (not_begins (by decide) _)]

/-- **What can be read of a text with sequences strewn in** is no shorter than the plain text without
its known tags, and the same exactly if no tag is severed. -/
theorem visible_strewn {plain t : Text} (h : Strewn Sgr.IsSequence plain t)
    (hplain : Sgr.escape ∉ plain) :
    (bridge false plain).length ≤ (visible t).length ∧
      (visible t = bridge false plain ↔ ¬ Severed t) := by
  induction plain using finds_knownScan.induction generalizing t with
  | nil =>
    have hopen : '<' ∉ t := Sgr.not_mem_strewn h (by decide) List.not_mem_nil
    have hvisible := visible_strewn_append h List.not_mem_nil List.not_mem_nil []
    have hsevered := severed_append hopen []
    rw [List.append_nil] at hvisible hsevered
    rw [hvisible, hsevered]
    simp [visible, severed_nil]
  | plain c rest hnot ih =>
    obtain ⟨u, after, rfl, hu, hafter⟩ := Strewn.of_append_cons (a := []) h
    have hopen : '<' ∉ u := Sgr.not_mem_strewn hu (by decide) List.not_mem_nil
    have hc : c ≠ Sgr.escape := fun hc => hplain (hc ▸ List.mem_cons_self ..)
    have hstrewn : Strewn Sgr.IsSequence (c :: rest) (c :: after) := .char c hafter
    have hnot' : ¬ Text.Begins Known (c :: after) := fun ⟨w, groups, hw, hpre⟩ => hnot ⟨w, groups, hw,
      hstrewn.prefix_of_prefix (fun j hj => hj.head?) hw.escape_not_mem hpre⟩
    have hnotSevered : ¬ BeginsSevered (c :: after) := fun hs =>
      hnot (begins_of_beginsSevered hstrewn hplain hs)
    obtain ⟨hlength, hiff⟩ := ih hafter fun hm => hplain (List.mem_cons_of_mem _ hm)
    rw [visible_strewn_append hu List.not_mem_nil List.not_mem_nil, List.nil_append,
      visible_cons hc hnot', bridge_cons false hnot, severed_append hopen, severed_cons,
      or_iff_right hnotSevered, List.cons.injEq, ← hiff]
    exact ⟨Nat.succ_le_succ hlength, and_iff_right rfl⟩
  | hit w groups rest hw ih =>
    obtain ⟨name, sequence, rfl, rfl, hname⟩ := hw
    have hshape : '<' :: (name ++ ['>']) ++ rest = '<' :: (name ++ '>' :: rest) := by simp
    rw [hshape] at h hplain ⊢
    rw [bridge_tag hname, if_neg Bool.false_ne_true, List.nil_append]
    obtain ⟨u, inner, rfl, hu, hinner⟩ := Strewn.of_append_cons (a := []) h
    obtain ⟨v, after, rfl, hv, hafter⟩ := Strewn.of_append_cons hinner
    have hopen : '<' ∉ u := Sgr.not_mem_strewn hu (by decide) List.not_mem_nil
    have hopenTag : '<' ∉ v ++ ['>'] := by
      rw [List.mem_append, not_or]
      exact ⟨Sgr.not_mem_strewn hv (by decide) (plain_name hname).1, by decide⟩
    have hafterTag : Severed (v ++ '>' :: after) ↔ Severed after := by
      simpa using severed_append hopenTag after
    obtain ⟨hlength, hiff⟩ := ih hafter fun hm => hplain
      (List.mem_cons_of_mem _ (List.mem_append_right _ (List.mem_cons_of_mem _ hm)))
    rw [visible_strewn_append hu List.not_mem_nil List.not_mem_nil, List.nil_append,
      severed_append hopen, severed_cons, hafterTag]
    by_cases hwhole : v = name
    · subst hwhole
      rw [visible_tag hname, or_iff_right (not_beginsSevered_tag hname after)]
      exact ⟨hlength, hiff⟩
    · have hsevered : BeginsSevered ('<' :: (v ++ '>' :: after)) :=
        ⟨name, v, ⟨sequence, hname⟩, hv, hwhole, after, by simp⟩
      have hlonger : (bridge false rest).length < (visible ('<' :: (v ++ '>' :: after))).length := by
        rw [visible_severed hname hv hwhole, List.length_cons, List.length_append,
          List.length_cons]
        omega
      refine ⟨Nat.le_of_lt hlonger, iff_of_false (fun hsame => ?_) (not_not_intro (.inl hsevered))⟩
      rw [hsame] at hlonger
      exact Nat.lt_irrefl _ hlonger

end Markup
end TermStyle
