/-
# What a request leaves alone

A palette tells of every entry that a request writes or removes, and each of these changes is about one name.
What is found under any other name is as it was before (`leavesOthers_perform`): so whoever goes by the
changes misses nothing.

| request | changes are about | names |
| --- | --- | --- |
| `set`, `update`, `setDefault` | the names that were written | all stay, others may come in |
| `delete`, `pop`, `popFirst`, `clear` | the names that were removed | these are taken out |
| any other | nothing | as they were |

Only the second kind can take a name out (`keys_subset_perform`).
-/

import TermStyle.Palette.Request

namespace TermStyle
namespace Palette

/-- The name that a change is about. -/
def Change.name : Change → Text
  | .set name _ => name
  | .removed name => name

/-- Whether what is found under a name is as it was in a palette, unless a change is about the name. -/
def Outcome.LeavesOthers (p : Palette) (o : Outcome) : Prop :=
  ∀ name, (∀ change ∈ o.changes, change.name ≠ name) → o.palette.get? name = p.get? name

theorem leavesOthers_answer (p : Palette) (reply : Except Refusal Reply) :
    (p.answer reply).LeavesOthers p :=
  fun _ _ => rfl

theorem leavesOthers_remove (p : Palette) (name : Text) (reply : Reply) :
    (p.remove name reply).LeavesOthers p :=
  fun _ hother => OrderedMap.get?_erase_of_ne p (hother _ (List.mem_singleton_self _))

theorem leavesOthers_update (p : Palette) (pairs : List (Datum × Datum)) :
    (p.update pairs).LeavesOthers p := by
  induction pairs generalizing p with
  | nil => exact p.leavesOthers_answer _
  | cons pair more ih =>
    rcases p.update_cases pair.1 pair.2 more with ⟨r, hdoes⟩ | ⟨n, v, -, -, hdoes⟩
    · exact hdoes ▸ p.leavesOthers_answer _
    · rw [hdoes]
      intro other hother
      obtain ⟨hfirst, hlater⟩ := List.forall_mem_cons.1 hother
      exact (ih (p.put n v) other hlater).trans (OrderedMap.get?_put_of_ne p hfirst _)

/-- **What no change is about is as it was.** -/
theorem leavesOthers_perform (p : Palette) (request : Request) : (p.perform request).LeavesOthers p := by
  rcases p.perform_cases request with ⟨reply, hdoes⟩ | ⟨_, _, n, v, _, -, -, hdoes⟩ | ⟨n, _, reply, -, -, hdoes⟩ |
    rfl | ⟨pairs, rfl⟩
  · exact hdoes ▸ p.leavesOthers_answer reply
  · rw [hdoes]
    exact fun other hother => OrderedMap.get?_put_of_ne p (hother _ (List.mem_singleton_self _)) _
  · exact hdoes ▸ p.leavesOthers_remove n reply
  · intro other hother
    have habsent : other ∉ p.keys := fun hmem => hother _ (List.mem_map_of_mem hmem) rfl
    exact (OrderedMap.get?_eq_none_iff.2 habsent).symm
  · exact p.leavesOthers_update pairs

theorem keys_subset_put (p : Palette) (name value : Text) : p.keys ⊆ OrderedMap.keys (p.put name value) := by
  rcases p.keys_put name value with hkeys | ⟨-, hkeys⟩
  · exact hkeys ▸ List.Subset.refl _
  · exact hkeys ▸ List.subset_append_left _ _

theorem keys_subset_update (p : Palette) (pairs : List (Datum × Datum)) :
    p.keys ⊆ (p.update pairs).palette.keys := by
  induction pairs generalizing p with
  | nil => exact List.Subset.refl _
  | cons pair more ih =>
    rcases p.update_cases pair.1 pair.2 more with ⟨r, hdoes⟩ | ⟨n, v, -, -, hdoes⟩
    · exact hdoes ▸ List.Subset.refl _
    · rw [hdoes]
      exact List.Subset.trans (p.keys_subset_put n v) (ih (p.put n v))

/-- **All names stay,** unless a request is there to take them out. -/
theorem keys_subset_perform {p : Palette} {request : Request} (h : request.takesOut = false) :
    p.keys ⊆ (p.perform request).palette.keys := by
  rcases p.perform_cases request with ⟨reply, hdoes⟩ | ⟨_, _, n, v, _, -, -, hdoes⟩ | ⟨n, _, reply, htakes, -, -⟩ |
    rfl | ⟨pairs, rfl⟩
  · exact hdoes ▸ List.Subset.refl _
  · exact hdoes ▸ p.keys_subset_put n v
  · rw [h] at htakes
    cases htakes
  · cases h
  · exact p.keys_subset_update pairs

end Palette
end TermStyle
