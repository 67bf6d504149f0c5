/-
# Maps that remember the order of their entries

An ordered map is the list of its entries, in the order in which their keys came in, one
entry a key.  Writing under a key that is there keeps its place; a key that was erased and
is written again goes to the end.

| operation | effect on the entries |
| --- | --- |
| `get?` | none; the value under a key |
| `put` | overwrites in place, or appends |
| `erase` | takes the entry of a key out |
| `ofList` | the entries of a list, written one after another |
-/

namespace TermStyle

/-- Entries in the order in which their keys came in. -/
abbrev OrderedMap (κ : Type) (β : Type) := List (κ × β)

namespace OrderedMap

variable {κ β : Type} [BEq κ]

/-- The value under a key. -/
def get? : OrderedMap κ β → κ → Option β
  | [], _ => none
  | (k, v) :: more, key => if k == key then some v else get? more key

/-- Writes a value under a key: in place where the key is there, else at the end. -/
def put : OrderedMap κ β → κ → β → OrderedMap κ β
  | [], key, value => [(key, value)]
  | (k, v) :: more, key, value =>
    if k == key then (k, value) :: more else (k, v) :: put more key value

/-- Takes the entry of a key out. -/
def erase : OrderedMap κ β → κ → OrderedMap κ β
  | [], _ => []
  | (k, v) :: more, key => if k == key then more else (k, v) :: erase more key

/-- Writes the entries of a list one after another. -/
def ofList (entries : List (κ × β)) : OrderedMap κ β :=
  entries.foldl (fun m e => m.put e.1 e.2) []

omit [BEq κ] in
/-- The keys, in order. -/
def keys (m : OrderedMap κ β) : List κ := m.map Prod.fst

variable [LawfulBEq κ]

@[simp] theorem get?_put_self (m : OrderedMap κ β) (key : κ) (value : β) :
    (m.put key value).get? key = some value := by
  induction m with
  | nil => simp [put, get?]
  | cons e more ih =>
    obtain ⟨k, v⟩ := e
    by_cases h : k = key <;> simp [put, get?, h, ih]

theorem get?_put_of_ne (m : OrderedMap κ β) {key other : κ} (hne : key ≠ other) (value : β) :
    (m.put key value).get? other = m.get? other := by
  induction m with
  | nil => simp [put, get?, hne]
  | cons e more ih =>
    obtain ⟨k, v⟩ := e
    by_cases h : k = key
    · subst h; simp [put, get?, hne]
    · by_cases h2 : k = other <;> simp_all [put, get?]

theorem keys_put (m : OrderedMap κ β) (key : κ) (value : β) :
    (m.put key value).keys = m.keys ∨ (key ∉ m.keys ∧ (m.put key value).keys = m.keys ++ [key]) := by
  induction m with
  | nil => simp [put, keys]
  | cons e more ih =>
    obtain ⟨k, v⟩ := e
    by_cases h : k = key
    · subst h; simp [put, keys]
    · have h' : ¬ key = k := fun e => h e.symm
      simp only [keys] at ih
      rcases ih with ih | ih <;> simp_all [put, keys]

/-- **A map has one entry a key:** writing keeps the keys distinct. -/
theorem nodup_keys_put {m : OrderedMap κ β} (h : m.keys.Nodup) (key : κ) (value : β) :
    (m.put key value).keys.Nodup := by
  rcases keys_put m key value with hk | ⟨hm, hk⟩
  · rwa [hk]
  · rw [hk, List.nodup_append]
    exact ⟨h, by simp, fun a ha b hb => by simp only [List.mem_singleton] at hb; rintro rfl; exact hm (hb ▸ ha)⟩

theorem get?_erase_of_ne (m : OrderedMap κ β) {key other : κ} (hne : key ≠ other) :
    (m.erase key).get? other = m.get? other := by
  induction m with
  | nil => rfl
  | cons e more ih =>
    obtain ⟨k, v⟩ := e
    by_cases h : k = key
    · subst h; simp [erase, get?, hne]
    · by_cases h2 : k = other <;> simp_all [erase, get?]

/-- What is found under a key is the value of one of the entries. -/
theorem mem_of_get? {m : OrderedMap κ β} {key : κ} {value : β} (h : m.get? key = some value) :
    (key, value) ∈ m := by
  induction m with
  | nil => simp [get?] at h
  | cons e more ih =>
    obtain ⟨k, v⟩ := e
    by_cases hk : k = key <;> simp_all [get?]

/-- Nothing is found under a key exactly if it is not one of the keys. -/
theorem get?_eq_none_iff {m : OrderedMap κ β} {key : κ} : m.get? key = none ↔ key ∉ m.keys := by
  induction m with
  | nil => simp [get?, keys]
  | cons e more ih =>
    obtain ⟨k, v⟩ := e
    by_cases hk : k = key
    · simp [get?, keys, hk]
    · have hk' : ¬ key = k := fun h => hk h.symm
      simp only [keys] at ih
      simp [get?, keys, hk, hk', ih]

/-- An entry of a map after writing is the one that was written, or was there. -/
theorem mem_of_mem_put {m : OrderedMap κ β} {key : κ} {value : β} {e : κ × β} (h : e ∈ m.put key value) :
    e = (key, value) ∨ e ∈ m := by
  induction m with
  | nil => exact .inl (List.mem_singleton.1 h)
  | cons d more ih =>
    obtain ⟨k, v⟩ := d
    simp only [put] at h
    split at h
    · rename_i hk
      rcases List.mem_cons.1 h with rfl | h
      · exact .inl (by rw [eq_of_beq hk])
      · exact .inr (List.mem_cons_of_mem _ h)
    · rcases List.mem_cons.1 h with rfl | h
      · exact .inr (List.mem_cons_self ..)
      · exact (ih h).imp_right (List.mem_cons_of_mem _)

omit [LawfulBEq κ] in
/-- Taking out an entry leaves the others as they were. -/
theorem erase_sublist (m : OrderedMap κ β) (key : κ) : (m.erase key).Sublist m := by
  induction m with
  | nil => exact .slnil
  | cons d more ih =>
    obtain ⟨k, v⟩ := d
    simp only [erase]
    split
    · exact List.sublist_cons_self _ _
    · exact ih.cons_cons _

omit [LawfulBEq κ] in
/-- Taking out a key that is there takes out one entry. -/
theorem length_erase_of_get? {m : OrderedMap κ β} {key : κ} {value : β}
    (h : m.get? key = some value) : (m.erase key).length + 1 = m.length := by
  induction m with
  | nil => simp [get?] at h
  | cons e more ih =>
    obtain ⟨k, v⟩ := e
    simp only [get?] at h
    simp only [erase]
    split
    · rfl
    · rename_i hk
      rw [if_neg hk] at h
      simp [ih h]

end OrderedMap

end TermStyle
