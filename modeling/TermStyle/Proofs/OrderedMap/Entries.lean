/-
# The entries of a map

A map that remembers the order of its entries is a list, so its keys are a list as well.  Writing and taking
out do to the keys what they do to the entries (`keys_put_of_mem`, `keys_put_of_not_mem`, `keys_erase`).

Keys are distinct in every map that is made by writing.  Then an entry is known by its key (`get?_of_mem`),
the map by its keys and by what is found under each (`filterMap_keys`), and to take a key out is to keep all
the others (`erase_eq_filter`).

Where two lists of entries follow one another, what is not found in the first is looked for in the second
(`get?_append_of_not_mem`).
-/

import Mathlib.Data.List.Basic
import TermStyle.OrderedMap

namespace TermStyle

namespace OrderedMap

variable {κ β : Type} [BEq κ] [LawfulBEq κ]

theorem keys_put_of_mem {m : OrderedMap κ β} {key : κ} (h : key ∈ m.keys) (value : β) :
    (m.put key value).keys = m.keys :=
  (m.keys_put key value).resolve_right fun hnew => hnew.1 h

theorem keys_put_of_not_mem {m : OrderedMap κ β} {key : κ} (h : key ∉ m.keys) (value : β) :
    (m.put key value).keys = m.keys ++ [key] := by
  rcases m.keys_put key value with hsame | hnew
  · have hmem : key ∈ (m.put key value).keys :=
      Classical.byContradiction fun hnot => by
        have hnone := get?_eq_none_iff.2 hnot
        rw [get?_put_self] at hnone
        cases hnone
    exact absurd (hsame ▸ hmem) h
  · exact hnew.2

omit [LawfulBEq κ] in
/-- To take out the entry of a key takes out the key. -/
theorem keys_erase (m : OrderedMap κ β) (key : κ) : (m.erase key).keys = m.keys.erase key := by
  induction m with
  | nil => rfl
  | cons entry more ih =>
    obtain ⟨k, v⟩ := entry
    simp only [keys, List.map_cons, List.erase_cons] at ih ⊢
    simp only [erase]
    split
    · rfl
    · rw [List.map_cons, ih]

omit [LawfulBEq κ] in
/-- There is nothing to take out under a key that is not there. -/
theorem erase_of_get?_eq_none {m : OrderedMap κ β} {key : κ} (h : m.get? key = none) :
    m.erase key = m := by
  induction m with
  | nil => rfl
  | cons entry more ih =>
    obtain ⟨k, v⟩ := entry
    simp only [get?] at h
    simp only [erase]
    split at h
    · cases h
    · rename_i hne
      rw [if_neg hne, ih h]

/-- Where keys are distinct, what is found under a key is the value of its entry. -/
theorem get?_of_mem {m : OrderedMap κ β} (h : m.keys.Nodup) {key : κ} {value : β}
    (hmem : (key, value) ∈ m) : m.get? key = some value := by
  induction m with
  | nil => cases hmem
  | cons entry more ih =>
    obtain ⟨k, v⟩ := entry
    obtain ⟨hk, hmore⟩ := List.nodup_cons.1 h
    rcases List.mem_cons.1 hmem with hfirst | hlater
    · cases hfirst
      simp only [get?, beq_self_eq_true, if_true]
    · have hne : k ≠ key := fun hsame => hk (hsame ▸ List.mem_map.2 ⟨_, hlater, rfl⟩)
      simp only [get?, beq_iff_eq, hne, if_false, ih hmore hlater]

/-- **A map with distinct keys is known by them and by what is found under each.** -/
theorem filterMap_keys {m : OrderedMap κ β} (h : m.keys.Nodup) :
    (keys m).filterMap (fun key => (m.get? key).map fun value => (key, value)) = m := by
  rw [keys, List.filterMap_map]
  calc m.filterMap ((fun key => (m.get? key).map fun value => (key, value)) ∘ Prod.fst)
      = m.filterMap some := by
        refine List.filterMap_congr fun entry hentry => ?_
        simp only [Function.comp_apply, get?_of_mem h hentry, Option.map_some]
    _ = m := List.filterMap_some

/-- Where keys are distinct, to take one out is to keep the entries of the others. -/
theorem erase_eq_filter {m : OrderedMap κ β} (h : m.keys.Nodup) (key : κ) :
    m.erase key = m.filter fun e => e.1 != key := by
  induction m with
  | nil => rfl
  | cons entry more ih =>
    obtain ⟨k, v⟩ := entry
    obtain ⟨hk, hmore⟩ := List.nodup_cons.1 h
    by_cases hsame : k = key
    · subst hsame
      have hall : ∀ e ∈ more, (e.1 != k) = true := fun e he =>
        bne_iff_ne.2 fun heq => hk (List.mem_map.2 ⟨e, he, heq⟩)
      simp [erase, List.filter_eq_self.2 hall]
    · simp [erase, hsame, ih hmore]

/-- Of two lists of entries, the second one is asked for what is not a key of the first. -/
theorem get?_append_of_not_mem {first : OrderedMap κ β} {key : κ} (h : key ∉ first.keys)
    (second : OrderedMap κ β) : OrderedMap.get? (first ++ second) key = second.get? key := by
  induction first with
  | nil => rfl
  | cons entry more ih =>
    obtain ⟨k, v⟩ := entry
    obtain ⟨hk, hmore⟩ := not_or.1 (mt List.mem_cons.2 h)
    have hne : ¬ (k == key) = true := fun heq => hk (eq_of_beq heq).symm
    rw [List.cons_append, get?, if_neg hne]
    exact ih hmore

omit [LawfulBEq κ] in
/-- To take out a key of the first entries leaves all but the last of them as they are without it. -/
theorem take_erase_take (m : OrderedMap κ β) (key : κ) (n : Nat) :
    (OrderedMap.erase (m.take (n + 1)) key).take n = (m.erase key).take n := by
  induction m generalizing n with
  | nil => rfl
  | cons entry more ih =>
    obtain ⟨k, v⟩ := entry
    rw [List.take_succ_cons, erase, erase]
    split
    · rw [List.take_take, Nat.min_self]
    · cases n with
      | zero => rfl
      | succ n => rw [List.take_succ_cons, List.take_succ_cons, ih]

omit [BEq κ] [LawfulBEq κ] in
/-- To keep the entries of some keys is to keep these keys. -/
theorem keys_filter (m : OrderedMap κ β) (p : κ → Bool) :
    OrderedMap.keys (m.filter fun e => p e.1) = m.keys.filter p := by
  rw [keys, keys, List.filter_map]
  rfl

end OrderedMap

end TermStyle
