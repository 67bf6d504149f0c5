/-
# Changes one by one

A request to a palette can write or remove many entries, and the palette after it comes together with the
list of these changes.  A change is also something that can be carried out by itself: one entry is written,
if its name and its value are accepted, or one entry is removed, if it is there (`carryOut?`).

| request | its changes, carried out one by one |
| --- | --- |
| `set`, `setDefault` | write the entry |
| `update` | write the entries that come before the first pair that is refused |
| `delete`, `pop`, `popFirst` | remove the entry |
| `clear` | remove the first entry, until there is none |
| any other | nothing |

Each of them can be carried out where its turn comes, and they lead to what the request leaves
(`retold_perform`).  Whoever knows the changes knows the palette, however many requests they came from
(`replay?_changesAlong`).
-/

import TermStyle.Proofs.Palette.Arrivals
import TermStyle.Proofs.Palette.Changes

namespace TermStyle
namespace Palette

/-- The palette after one change, if it can be carried out: what is written is accepted, and what is
removed is there. -/
def carryOut? (p : Palette) : Change → Option Palette
  | .set name value =>
    if (accepted? (.text name) (.text value)).isSome then some (p.put name value) else none
  | .removed name => if (p.get? name).isSome then some (p.erase name) else none

/-- The palette after changes, if each of them can be carried out in its turn. -/
def replay? (p : Palette) (changes : List Change) : Option Palette := changes.foldlM carryOut? p

theorem replay?_cons_of_eq_some {p q : Palette} {change : Change} (h : p.carryOut? change = some q)
    (more : List Change) : p.replay? (change :: more) = q.replay? more := by
  rw [replay?, List.foldlM_cons, h]
  rfl

theorem replay?_append_of_eq_some {p q : Palette} {changes : List Change} (h : p.replay? changes = some q)
    (more : List Change) : p.replay? (changes ++ more) = q.replay? more := by
  rw [replay?] at h
  rw [replay?, List.foldlM_append, h]
  rfl

/-- Whether the changes that are reported of a palette lead, one by one, to the palette that is left. -/
def Outcome.Retold (p : Palette) (o : Outcome) : Prop := p.replay? o.changes = some o.palette

theorem retold_answer (p : Palette) (reply : Except Refusal Reply) : (p.answer reply).Retold p := rfl

/-- What is accepted is a pair of texts. -/
theorem eq_text_of_accepted? {name value : Datum} {n v : Text} (h : accepted? name value = some (n, v)) :
    name = .text n ∧ value = .text v := by
  unfold accepted? at h
  split at h
  · split at h
    · cases h
      exact ⟨rfl, rfl⟩
    · cases h
  · cases h

theorem carryOut?_set {p : Palette} {name value : Datum} {n v : Text} (hname : checkName name = .ok n)
    (hvalue : checkValue name value = .ok v) : p.carryOut? (.set n v) = some (p.put n v) := by
  have haccepted := accepted?_eq_some_iff.2 ⟨hname, hvalue⟩
  obtain ⟨rfl, rfl⟩ := eq_text_of_accepted? haccepted
  simp only [carryOut?, haccepted, Option.isSome_some, if_true]

theorem carryOut?_removed {p : Palette} {name value : Text} (h : p.get? name = some value) :
    p.carryOut? (.removed name) = some (p.erase name) := by
  simp only [carryOut?, h, Option.isSome_some, if_true]

theorem retold_remove {p : Palette} {name value : Text} (h : p.get? name = some value) (reply : Reply) :
    (p.remove name reply).Retold p :=
  replay?_cons_of_eq_some (carryOut?_removed h) []

theorem retold_update (p : Palette) (pairs : List (Datum × Datum)) : (p.update pairs).Retold p := by
  induction pairs generalizing p with
  | nil => exact p.retold_answer _
  | cons pair more ih =>
    rcases p.update_cases pair.1 pair.2 more with ⟨r, hdoes⟩ | ⟨n, v, hname, hvalue, hdoes⟩
    · exact hdoes ▸ p.retold_answer _
    · rw [hdoes]
      exact (replay?_cons_of_eq_some (carryOut?_set hname hvalue) _).trans (ih (p.put n v))

/-- The entry that is first can be removed. -/
theorem get?_first (name value : Text) (more : Palette) :
    OrderedMap.get? ((name, value) :: more) name = some value := by
  rw [OrderedMap.get?, if_pos (beq_self_eq_true name)]

/-- Removing the names, the first one first, leaves nothing. -/
theorem replay?_removed_keys (p : Palette) : p.replay? (p.keys.map .removed) = some [] := by
  induction p with
  | nil => rfl
  | cons entry more ih =>
    obtain ⟨name, value⟩ := entry
    have herase : OrderedMap.erase ((name, value) :: more) name = more := by
      rw [OrderedMap.erase, if_pos (beq_self_eq_true name)]
    have hfirst := carryOut?_removed (get?_first name value more)
    rw [herase] at hfirst
    exact (replay?_cons_of_eq_some hfirst _).trans ih

/-- **The changes that a request reports are what it does,** one by one. -/
theorem retold_perform (p : Palette) (request : Request) : (p.perform request).Retold p := by
  rcases p.perform_cases request with ⟨reply, hdoes⟩ | ⟨_, _, n, v, _, hname, hvalue, hdoes⟩ |
    ⟨n, v, reply, -, hthere, hdoes⟩ | rfl | ⟨pairs, rfl⟩
  · exact hdoes ▸ p.retold_answer reply
  · exact hdoes ▸ replay?_cons_of_eq_some (carryOut?_set hname hvalue) []
  · exact hdoes ▸ retold_remove hthere reply
  · exact p.replay?_removed_keys
  · exact p.retold_update pairs

/-- The changes that are reported along requests. -/
def changesAlong : Palette → List Request → List Change
  | _, [] => []
  | p, request :: more => (p.perform request).changes ++ changesAlong (p.perform request).palette more

/-- How many entries are written or removed along requests. -/
def changeTotal : Palette → List Request → Nat
  | _, [] => 0
  | p, request :: more => p.changeCount request + changeTotal (p.perform request).palette more

theorem length_changesAlong (p : Palette) (requests : List Request) :
    (p.changesAlong requests).length = p.changeTotal requests := by
  induction requests generalizing p with
  | nil => rfl
  | cons request more ih => rw [changesAlong, List.length_append, length_changes, ih, changeTotal]

/-- **What is reported along requests leads to the palette after them.** -/
theorem replay?_changesAlong (p : Palette) (requests : List Request) :
    p.replay? (p.changesAlong requests) = some (p.after requests) := by
  induction requests generalizing p with
  | nil => rfl
  | cons request more ih =>
    rw [changesAlong, replay?_append_of_eq_some (p.retold_perform request), ih]
    rfl

/-- A request that fails changes no entry, unless it is an update. -/
theorem changeCount_of_error {p : Palette} {request : Request} {r : Refusal}
    (h : (p.perform request).reply = .error r) (hupdate : ∀ pairs, request ≠ .update pairs) :
    p.changeCount request = 0 := by
  rw [← length_changes, perform_of_error h hupdate]
  rfl

/-- **An update that fails changes one entry for each pair before the first that is not accepted.** -/
theorem changeCount_update_of_error {p : Palette} {pairs : List (Datum × Datum)} {r : Refusal}
    (h : (p.perform (.update pairs)).reply = .error r) :
    ∃ done name value more, pairs = done ++ (name, value) :: more ∧
      (∀ pair ∈ done, (accepted? pair.1 pair.2).isSome = true) ∧ accepted? name value = none ∧
      p.changeCount (.update pairs) = done.length := by
  obtain ⟨done, name, value, more, rfl, hdone, hrefused, -, -⟩ := update_of_error h
  refine ⟨done, name, value, more, rfl, hdone, hrefused, ?_⟩
  simp only [changeCount, acceptedFirst, List.takeWhile_append_of_pos hdone, List.takeWhile_cons, hrefused,
    Option.isSome_none, Bool.false_eq_true, if_false, List.append_nil]

end Palette
end TermStyle
