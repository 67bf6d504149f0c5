/-
# Texts with known tags

Of all the texts between angle brackets only the known tags matter to the bridge (`Known`).  Since
nothing between the brackets of a tag begins another one, the bridge can as well be read as looking
for known tags alone (`bridge_eq`), and not to color is to take them out (`bridge_false_eq_strip`).

A known tag opens with `<`, ends with its only `>`, and has no escape character in it, so a text can
be bridged in parts, cut before any `<` and before any escape character.
-/

import TermStyle.Markup
import TermStyle.Proofs.Sgr.Sequences

namespace TermStyle
namespace Markup

/-- The form of known tags: their names are marked. -/
def Known (w : Text) (groups : List (Option Text)) : Prop :=
  ∃ name sequence, w = '<' :: (name ++ ['>']) ∧ groups = [some name] ∧ tags.get? name = some sequence

/-- Whether the marked name is known. -/
def isKnown (groups : List (Option Text)) : Bool := (tags.get? ((groups.headD none).getD [])).isSome

/-- Finds known tags and marks their names. -/
def knownScan : Text.Scanner := scan.choosing isKnown

/-- Whether an entry has a name of other characters than brackets and the escape character, and a
sequence. -/
def isSound (e : Text × Text) : Bool :=
  (e.1.all fun c => isNameChar c && c != Sgr.escape) && decide (Sgr.IsSequence e.2)

/-- **The names of known tags are plain words, and their sequences are sequences.** -/
theorem tags_sound : ∀ e ∈ tags,
    (∀ c ∈ e.1, isNameChar c = true ∧ c ≠ Sgr.escape) ∧ Sgr.IsSequence e.2 := by
  have hall : tags.all isSound = true := by decide
  intro e he
  obtain ⟨hname, hsequence⟩ := Bool.and_eq_true_iff.1 (List.all_eq_true.1 hall e he)
  refine ⟨fun c hc => ?_, of_decide_eq_true hsequence⟩
  obtain ⟨hchar, hescape⟩ := Bool.and_eq_true_iff.1 (List.all_eq_true.1 hname c hc)
  exact ⟨hchar, bne_iff_ne.1 hescape⟩

theorem known_iff {w : Text} {groups : List (Option Text)} :
    Known w groups ↔
      Text.Delimited ['<'] isNameChar '>' (fun name => [some name]) w groups ∧ isKnown groups = true := by
  constructor
  · rintro ⟨name, sequence, hw, hgroups, hname⟩
    have hsound := (tags_sound _ (OrderedMap.mem_of_get? hname)).1
    refine ⟨⟨name, hw, fun c hc => (hsound c hc).1, hgroups⟩, ?_⟩
    rw [hgroups]
    exact Option.isSome_iff_exists.2 ⟨sequence, hname⟩
  · rintro ⟨⟨name, hw, -, hgroups⟩, hknown⟩
    rw [hgroups] at hknown
    obtain ⟨sequence, hname⟩ := Option.isSome_iff_exists.1 hknown
    exact ⟨name, sequence, hw, hgroups, hname⟩

theorem scan_eq : scan = Text.scanDelimited ['<'] isNameChar '>' fun name => [some name] := by
  refine Text.unique_eq_scanDelimited (fun before body after hdrop => ?_) (fun before body hopen => ?_)
    fun before rest hother => ?_
  · simp [hdrop]
  · simp only [List.cons_append, List.nil_append]
    split
    · rename_i hdrop
      exact absurd (congrArg List.head? hdrop) hopen
    · rfl
  · split
    · rename_i body
      exact absurd ⟨body, rfl⟩ hother
    · rfl

theorem finds_scan : scan.Finds (Text.Delimited ['<'] isNameChar '>' fun name => [some name]) := by
  rw [scan_eq]
  exact Text.finds_scanDelimited (by decide) _ _

/-- **Known tags are what the scanner for them finds.** -/
theorem finds_knownScan : knownScan.Finds Known := by
  have hform : Known = fun w groups =>
      Text.Delimited ['<'] isNameChar '>' (fun name => [some name]) w groups ∧ isKnown groups = true := by
    funext w groups
    exact propext known_iff
  rw [hform]
  exact finds_scan.choosing isKnown

/-- No known tag begins with another character than `<`. -/
theorem not_begins {c : Char} (hc : c ≠ '<') (rest : Text) : ¬ Text.Begins Known (c :: rest) := by
  rintro ⟨w, groups, ⟨name, sequence, rfl, -⟩, hpre⟩
  exact hc (List.cons_prefix_cons.1 hpre).1.symm

/-- What stands between angle brackets without being the name of a known tag makes none. -/
theorem not_begins_tag {name : Text} (hclose : '>' ∉ name) (hunknown : name ∉ tags.keys) (rest : Text) :
    ¬ Text.Begins Known ('<' :: (name ++ '>' :: rest)) := by
  rintro ⟨w, groups, ⟨other, sequence, rfl, -, hother⟩, hpre⟩
  have hsound := (tags_sound _ (OrderedMap.mem_of_get? hother)).1
  have hclose' : '>' ∉ other := fun hc => absurd (hsound _ hc).1 (by decide)
  obtain ⟨-, hpre⟩ := List.cons_prefix_cons.1 hpre
  rcases Text.prefix_cut hclose' hpre with rfl | hpre
  · rw [OrderedMap.get?_eq_none_iff.2 hunknown] at hother
    cases hother
  · exact hclose (hpre.subset (List.mem_append_right _ (List.mem_singleton_self _)))

theorem Known.head? {w : Text} {groups : List (Option Text)} (h : Known w groups) :
    w.head? = some '<' := by
  obtain ⟨name, sequence, rfl, -⟩ := h
  rfl

/-- What follows the first character of a known tag is neither `<` nor the escape character. -/
theorem Known.ne_of_mem_tail {w : Text} {groups : List (Option Text)} (h : Known w groups) {c : Char}
    (hc : c ∈ w.tail) : c ≠ '<' ∧ c ≠ Sgr.escape := by
  obtain ⟨name, sequence, rfl, -, hname⟩ := h
  simp only [List.tail_cons, List.mem_append, List.mem_singleton] at hc
  rcases hc with hc | rfl
  · obtain ⟨hchar, hescape⟩ := (tags_sound _ (OrderedMap.mem_of_get? hname)).1 c hc
    refine ⟨?_, hescape⟩
    rintro rfl
    exact absurd hchar (by decide)
  · decide

/-- No escape character is in a known tag. -/
theorem Known.escape_not_mem {w : Text} {groups : List (Option Text)} (h : Known w groups) :
    Sgr.escape ∉ w := by
  have htail : Sgr.escape ∉ w.tail := fun hc => (h.ne_of_mem_tail hc).2 rfl
  obtain ⟨rest, rfl⟩ := List.head?_eq_some_iff.1 h.head?
  exact fun hc => (List.mem_cons.1 hc).elim (by decide) htail

/-- What a known tag gives way to. -/
def shown (colorize : Bool) (groups : List (Option Text)) : Text :=
  if colorize then (tags.get? ((groups.headD none).getD [])).getD [] else []

theorem shown_known {name sequence : Text} (hname : tags.get? name = some sequence) :
    shown true [some name] = sequence := by
  have hmarked : tags.get? (([some name].headD none).getD []) = some sequence := hname
  rw [shown, if_pos rfl, hmarked, Option.getD_some]

/-- **To bridge is to replace known tags,** whatever else stands between angle brackets. -/
theorem bridge_eq (colorize : Bool) (t : Text) :
    bridge colorize t = Text.replace knownScan (fun _ groups => shown colorize groups) t := by
  have hinside : ∀ {w groups}, Text.Delimited ['<'] isNameChar '>' (fun name => [some name]) w groups →
      ∀ c ∈ w.tail, ∀ rest,
        ¬ Text.Begins (Text.Delimited ['<'] isNameChar '>' fun name => [some name]) (c :: rest) := by
    rintro w groups ⟨name, rfl, hname, -⟩ c hc rest ⟨v, groups', ⟨name', rfl, -⟩, hpre⟩
    obtain ⟨rfl, -⟩ := List.cons_prefix_cons.1 hpre
    simp only [List.singleton_append, List.tail_cons, List.mem_append, List.mem_singleton] at hc
    rcases hc with hc | hc
    · exact absurd (hname _ hc) (by decide)
    · exact absurd hc (by decide)
  have hunknown : ∀ w groups, isKnown groups = false → sequenceOf colorize w groups = w := by
    intro w groups hknown
    simp only [sequenceOf, Option.not_isSome_iff_eq_none.1 (Bool.eq_false_iff.1 hknown)]
  rw [bridge, ← finds_scan.replace_choosing hinside hunknown]
  refine finds_knownScan.replace_congr _ (fun w groups hw => ?_) t
  obtain ⟨name, sequence, rfl, rfl, hname⟩ := hw
  have hname' : tags.get? (([some name].headD none).getD []) = some sequence := hname
  simp only [sequenceOf, shown, hname', Option.getD_some]

/-- **Without colors, known tags are taken out.** -/
theorem bridge_false_eq_strip (t : Text) : bridge false t = Text.strip knownScan t := bridge_eq false t

@[simp] theorem bridge_nil (colorize : Bool) : bridge colorize [] = [] := by
  rw [bridge_eq, finds_knownScan.replace_nil]

/-- The sequence of a known tag is one. -/
theorem isSequence_of_get? {name sequence : Text} (hname : tags.get? name = some sequence) :
    Sgr.IsSequence sequence :=
  (tags_sound _ (OrderedMap.mem_of_get? hname)).2

/-- **A known tag gives way to its sequence.** -/
theorem bridge_tag {name sequence : Text} (hname : tags.get? name = some sequence) (colorize : Bool)
    (rest : Text) : bridge colorize ('<' :: (name ++ '>' :: rest)) =
      (if colorize then sequence else []) ++ bridge colorize rest := by
  have hshape : '<' :: (name ++ '>' :: rest) = '<' :: (name ++ ['>']) ++ rest := by
    rw [List.cons_append, List.append_assoc, List.singleton_append]
  have hname' : tags.get? (([some name].headD none).getD []) = some sequence := hname
  rw [hshape, bridge_eq, bridge_eq,
    finds_knownScan.replace_append_form _ ⟨name, sequence, rfl, rfl, hname⟩, shown, hname',
    Option.getD_some]

/-- A character with which no known tag begins stays. -/
theorem bridge_cons (colorize : Bool) {c : Char} {rest : Text}
    (hnot : ¬ Text.Begins Known (c :: rest)) : bridge colorize (c :: rest) = c :: bridge colorize rest := by
  rw [bridge_eq, bridge_eq, finds_knownScan.replace_cons _ hnot]

theorem bridge_append_of_not_mem (colorize : Bool) {t : Text} (ht : '<' ∉ t) (rest : Text) :
    bridge colorize (t ++ rest) = t ++ bridge colorize rest := by
  rw [bridge_eq, bridge_eq]
  exact finds_knownScan.replace_append_of_not_begins _ (fun _ hc => not_begins fun h => ht (h ▸ hc)) rest

/-- **Other texts between angle brackets stay.** -/
theorem bridge_other_tag (colorize : Bool) {name : Text} (hopen : '<' ∉ name) (hclose : '>' ∉ name)
    (hunknown : name ∉ tags.keys) (rest : Text) :
    bridge colorize ('<' :: (name ++ '>' :: rest)) = '<' :: (name ++ '>' :: bridge colorize rest) := by
  rw [bridge_cons colorize (not_begins_tag hclose hunknown rest), bridge_append_of_not_mem colorize hopen,
    bridge_cons colorize (not_begins (by decide) rest)]

end Markup
end TermStyle
