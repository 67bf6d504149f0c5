/-
# Known tags that come together

What was said of inline tags is true of known tags: to take one out can bring another one together, and one
pass does not see it.

| text | taken out | what is left |
| --- | --- | --- |
| `<<b>b>` | `<b>` | `<b>` |
| `<str<i></i>ong>` | `<i>`, `</i>` | `<strong>` |
| `<<x>b>` | | `<<x>b>` |

Where a known tag is left, there was no name between its brackets, and what stood there is a name after the
pass (`holds_bridge_iff`).  A name has no bracket in it, so none of the known tags inside lies across one of
the brackets outside.
-/

import TermStyle.Proofs.Markup.Severed
import TermStyle.Proofs.Text.Rescan

namespace TermStyle
namespace Markup

open Text (Begins)

theorem exists_get? {name : Text} (h : name ∈ tags.keys) : ∃ sequence, tags.get? name = some sequence := by
  rw [← Option.isSome_iff_exists, ← Option.ne_none_iff_isSome]
  exact fun hnone => OrderedMap.get?_eq_none_iff.1 hnone h

theorem mem_keys {name sequence : Text} (h : tags.get? name = some sequence) : name ∈ tags.keys :=
  List.mem_map_of_mem (OrderedMap.mem_of_get? h)

/-- **A known tag is a name between brackets.** -/
theorem known_brackets_iff {v : Text} : (∃ groups, Known ('<' :: (v ++ ['>'])) groups) ↔ v ∈ tags.keys := by
  constructor
  · rintro ⟨groups, name, sequence, hv, -, hname⟩
    obtain rfl : v = name := List.append_cancel_right (List.cons.inj hv).2
    exact mem_keys hname
  · intro hv
    obtain ⟨sequence, hname⟩ := exists_get? hv
    exact ⟨_, v, sequence, rfl, rfl, hname⟩

theorem open_mem {w : Text} {groups : List (Option Text)} (hw : Known w groups) : '<' ∈ w :=
  List.mem_of_mem_head? hw.head?

/-- Between brackets there is a name after known tags were taken out, and was none before. -/
theorem not_begins_torn {v : Text} (hv : v ∉ tags.keys) (hname : bridge false v ∈ tags.keys) (rest : Text) :
    ¬ Begins Known ('<' :: (v ++ '>' :: rest)) := by
  rintro ⟨w, groups, ⟨name, sequence, rfl, -, hfound⟩, hpre⟩
  obtain ⟨hopen, hclose, -⟩ := plain_name hfound
  obtain ⟨-, hpre⟩ := List.cons_prefix_cons.1 hpre
  rcases Text.prefix_cut hclose hpre with rfl | ⟨more, rfl⟩
  · exact hv (mem_keys hfound)
  · -- The closing bracket of a name in front would have stayed.
    obtain ⟨sequence', hname⟩ := exists_get? hname
    rw [List.append_assoc, bridge_append_of_not_mem false hopen, List.singleton_append,
      bridge_cons false (not_begins (by decide) more)] at hname
    exact (plain_name hname).2.1 (List.mem_append_right _ (List.mem_cons_self ..))

/-- **A known tag is left exactly where a name came together** between two brackets. -/
theorem holds_bridge_iff (t : Text) :
    Text.Holds Known (bridge false t) ↔
      ∃ v, '<' :: (v ++ ['>']) <:+: t ∧ v ∉ tags.keys ∧ bridge false v ∈ tags.keys := by
  constructor
  · rintro ⟨w, groups, ⟨name, sequence, rfl, -, hname⟩, hin⟩
    rw [bridge_false_eq_strip] at hin
    obtain ⟨v, hv, hbridge, -, hnot⟩ := finds_knownScan.exists_of_infix_replace (fun _ _ => [])
      (fun _ _ _ => List.not_mem_nil) (fun _ _ _ => List.not_mem_nil) hin
    refine ⟨v, hv, fun hmem => ?_, ?_⟩
    · obtain ⟨groups', hknown⟩ := known_brackets_iff.2 hmem
      exact hnot groups' hknown
    · rw [bridge_false_eq_strip, Text.strip, hbridge]
      exact mem_keys hname
  · rintro ⟨v, hin, hv, hname⟩
    obtain ⟨groups, hknown⟩ := known_brackets_iff.2 hname
    obtain ⟨sequence, hget⟩ := exists_get? hname
    have hopen : '<' ∉ bridge false v ++ ['>'] := by
      simp only [List.mem_append, List.mem_singleton, not_or]
      exact ⟨(plain_name hget).1, by decide⟩
    have hstrewn := finds_knownScan.strewn_strip v
    rw [← bridge_false_eq_strip] at hstrewn
    refine ⟨_, groups, hknown, ?_⟩
    rw [bridge_false_eq_strip t]
    exact finds_knownScan.infix_strip_of_strewn hstrewn (fun _ _ hw hm => (hw.ne_of_mem_tail hm).1 rfl)
      (not_begins_torn hv hname) (fun c hc => not_begins fun h => hopen (h ▸ hc)) hin

end Markup
end TermStyle
