/-
# One tag name after another

The bridge goes over a text once and finds every text between angle brackets, known or not.  The same can be
done name by name: replace every `<b>`, then every `</b>`, and so on, each time going over the whole text and
looking for nothing but this one tag.  The two come to the same, whatever the order of the names
(`bridge_true_eq_foldl`).

In between, some of the names are done and the others are not (`bridgeOnly`).  One more pass does one more name
(`substitute_bridgeOnly`):

| in the text | after the names that are done | in the pass for one more name |
| --- | --- | --- |
| a tag whose name is done | its sequence, which has no `<` | stays |
| a tag of this name | as it was | its sequence |
| another known tag | as it was | stays, for its `>` is not where that of this name would be |
| any other character | as it was | stays, for what follows it was there before, or begins with the escape character |

The last line needs that a sequence comes in: were the tags taken out, what is left could come together to
another tag.
-/

import TermStyle.Proofs.Markup.KnownTags
import TermStyle.Proofs.OrderedMap.Entries
import TermStyle.Proofs.Text.Substitution

namespace TermStyle
namespace Markup

open Text (substitute)

/-- How the tag of a name is written. -/
def written (name : Text) : Text := '<' :: (name ++ ['>'])

/-- The name that is marked. -/
def nameOf (groups : List (Option Text)) : Text := (groups.headD none).getD []

/-- The text with those of its known tags replaced whose names are done. -/
def bridgeOnly (done : List Text) (t : Text) : Text :=
  Text.replace knownScan (fun w groups => if done.contains (nameOf groups) then shown true groups else w) t

theorem bridgeOnly_nil (t : Text) : bridgeOnly [] t = t := by
  simp only [bridgeOnly, List.contains_nil, Bool.false_eq_true, if_false, Text.replace_self]

/-- When all names are done, the text is bridged. -/
theorem bridgeOnly_of_keys_subset {done : List Text} (h : tags.keys ⊆ done) (t : Text) :
    bridgeOnly done t = bridge true t := by
  rw [bridge_eq, bridgeOnly]
  refine finds_knownScan.replace_congr _ (fun w groups hw => ?_) t
  obtain ⟨name, sequence, -, rfl, hname⟩ := hw
  have hkey : name ∈ tags.keys :=
    Classical.byContradiction fun hnot => by
      rw [OrderedMap.get?_eq_none_iff.2 hnot] at hname
      cases hname
  exact if_pos (List.contains_iff_mem.2 (h hkey))

section Known

variable {name sequence : Text} (hname : tags.get? name = some sequence)
include hname

theorem known_written : Known (written name) [some name] := ⟨name, sequence, rfl, rfl, hname⟩

/-- A tag gives way if its name is done. -/
theorem bridgeOnly_written_append (done : List Text) (rest : Text) :
    bridgeOnly done (written name ++ rest) =
      (if name ∈ done then sequence else written name) ++ bridgeOnly done rest := by
  rw [bridgeOnly, finds_knownScan.replace_append_form _ (known_written hname), shown_known hname]
  exact congrArg (· ++ bridgeOnly done rest) (if_congr List.contains_iff_mem rfl rfl)

theorem open_not_mem_sequence : '<' ∉ sequence := fun hm =>
  absurd ((isSequence_of_get? hname).forall_mem _ hm) (by decide)

/-- A tag of one name does not begin with that of another. -/
theorem not_written_prefix {other sequence' : Text} (hother : tags.get? other = some sequence')
    (hne : name ≠ other) (rest : Text) : ¬ written name <+: written other ++ rest := by
  have hclose : ∀ {known sequence}, tags.get? known = some sequence → '>' ∉ known := by
    intro known sequence hknown hm
    exact absurd ((tags_sound _ (OrderedMap.mem_of_get? hknown)).1 _ hm).1 (by decide)
  intro hpre
  have hshape : written other ++ rest = '<' :: (other ++ '>' :: rest) := by
    rw [written, List.cons_append, List.append_assoc, List.singleton_append]
  rw [hshape] at hpre
  rcases Text.prefix_cut (hclose hname) (List.cons_prefix_cons.1 hpre).2 with hsame | hin
  · exact hne hsame
  · exact hclose hother (hin.subset (List.mem_append_right name (List.mem_singleton_self _)))

/-- The pass for one name leaves the tags of the others. -/
theorem substitute_written_append {other sequence' : Text} (hother : tags.get? other = some sequence')
    (hne : name ≠ other) (rest : Text) :
    substitute (written name) sequence (written other ++ rest) =
      written other ++ substitute (written name) sequence rest := by
  have hnot : ¬ written name <+: '<' :: (other ++ ['>'] ++ rest) := not_written_prefix hname hother hne rest
  have htail : '<' ∉ other ++ ['>'] := fun hm => ((known_written hother).ne_of_mem_tail hm).1 rfl
  calc substitute (written name) sequence (written other ++ rest)
      = '<' :: substitute (written name) sequence (other ++ ['>'] ++ rest) := Text.substitute_cons sequence hnot
    _ = '<' :: (other ++ ['>'] ++ substitute (written name) sequence rest) := by
        rw [Text.substitute_append_of_not_mem sequence rfl htail]
    _ = written other ++ substitute (written name) sequence rest := rfl

/-- **No tag comes in:** one that begins after some names are done began before. -/
theorem begins_of_prefix_written {done : List Text} {c : Char} {rest : Text}
    (hpre : written name <+: c :: bridgeOnly done rest) : Text.Begins Known (c :: rest) := by
  obtain ⟨rfl, htail⟩ := List.cons_prefix_cons.1 hpre
  have hescape : Sgr.escape ∉ name ++ ['>'] := fun hm =>
    (known_written hname).escape_not_mem (List.mem_cons_of_mem _ hm)
  have hbefore : name ++ ['>'] <+: rest := by
    refine finds_knownScan.prefix_of_prefix_replace (fun w groups hw => ?_) hescape rest htail
    obtain ⟨other, sequence', -, rfl, hother⟩ := hw
    split
    · rw [shown_known hother]
      exact .inr (isSequence_of_get? hother).head?
    · exact .inl rfl
  exact ⟨_, _, known_written hname, List.cons_prefix_cons.2 ⟨rfl, hbefore⟩⟩

/-- **One pass does one more name.** -/
theorem substitute_bridgeOnly (done : List Text) (t : Text) :
    substitute (written name) sequence (bridgeOnly done t) = bridgeOnly (done ++ [name]) t := by
  induction t using finds_knownScan.induction with
  | nil =>
    rw [bridgeOnly, bridgeOnly, finds_knownScan.replace_nil, finds_knownScan.replace_nil, Text.substitute_nil]
  | plain c rest hnot ih =>
    have hcons : ∀ names, bridgeOnly names (c :: rest) = c :: bridgeOnly names rest := fun _ =>
      finds_knownScan.replace_cons _ hnot
    have hstays : ¬ written name <+: c :: bridgeOnly done rest := fun hpre =>
      hnot (begins_of_prefix_written hname hpre)
    rw [hcons, hcons, Text.substitute_cons sequence hstays, ih]
  | hit w groups rest hw ih =>
    obtain ⟨other, sequence', rfl, -, hother⟩ := hw
    have hgives : ∀ names, bridgeOnly names ('<' :: (other ++ ['>']) ++ rest) =
        (if other ∈ names then sequence' else written other) ++ bridgeOnly names rest := fun names =>
      bridgeOnly_written_append hother names rest
    rw [hgives, hgives]
    by_cases hdone : other ∈ done
    · rw [if_pos hdone, if_pos (List.mem_append_left _ hdone),
        Text.substitute_append_of_not_mem sequence rfl (open_not_mem_sequence hother), ih]
    · rw [if_neg hdone]
      by_cases hthis : name = other
      · subst hthis
        obtain rfl : sequence = sequence' := Option.some.inj (hname.symm.trans hother)
        have hword : written name ≠ [] := List.cons_ne_nil _ _
        rw [if_pos (List.mem_append_right _ (List.mem_singleton_self _)),
          Text.substitute_append sequence hword, ih]
      · have hlater : other ∉ done ++ [name] := fun hm =>
          (List.mem_append.1 hm).elim hdone fun hm => hthis (List.mem_singleton.1 hm).symm
        rw [if_neg hlater, substitute_written_append hname hother hthis, ih]

end Known

/-- The passes for some names do these names, one after another. -/
theorem foldl_substitute_bridgeOnly {todo : OrderedMap Text Text}
    (htags : ∀ entry ∈ todo, tags.get? entry.1 = some entry.2) (done : List Text) (t : Text) :
    todo.foldl (fun u entry => substitute (written entry.1) entry.2 u) (bridgeOnly done t) =
      bridgeOnly (done ++ OrderedMap.keys todo) t := by
  induction todo generalizing done with
  | nil => rw [List.foldl_nil, OrderedMap.keys, List.map_nil, List.append_nil]
  | cons entry more ih =>
    obtain ⟨hentry, hmore⟩ := List.forall_mem_cons.1 htags
    rw [List.foldl_cons, substitute_bridgeOnly hentry, ih hmore, List.append_assoc]
    rfl

/-- **To bridge a text is to replace one tag name after another,** in any order of the known tags. -/
theorem bridge_true_eq_foldl {order : OrderedMap Text Text} (h : order.Perm tags) (t : Text) :
    bridge true t = order.foldl (fun u entry => substitute (written entry.1) entry.2 u) t := by
  have hdistinct : tags.keys.Nodup := by decide
  have hkeys : order.keys.Perm tags.keys := h.map Prod.fst
  have htags : ∀ entry ∈ order, tags.get? entry.1 = some entry.2 := fun entry hentry =>
    OrderedMap.get?_of_mem hdistinct (h.subset hentry)
  have hpasses := foldl_substitute_bridgeOnly htags [] t
  rw [bridgeOnly_nil, List.nil_append] at hpasses
  rw [hpasses, bridgeOnly_of_keys_subset hkeys.symm.subset]

/-- Known tags inside of brackets that are none, and a tag that begins where another one has gone, in the order
of the tags backwards. -/
theorem bridge_true_eq_foldl_backwards :
    tags.reverse.Perm tags ∧ bridge true "<<b>b><x <i></b>".toList =
      tags.reverse.foldl (fun u entry => substitute (written entry.1) entry.2 u) "<<b>b><x <i></b>".toList ∧
    bridge true "<<b>b><x <i></b>".toList =
      '<' :: Sgr.sequence ["1".toList] ++ "b><x ".toList ++ Sgr.sequence ["3".toList] ++
        Sgr.sequence ["22".toList] :=
  ⟨List.reverse_perm tags, bridge_true_eq_foldl (List.reverse_perm tags) _, by decide⟩

end Markup
end TermStyle
