/-
# Least-recently-used caches

A cache stands in front of a computation that may fail.  It keeps the values of the keys that
were asked for last, up to a limit, the most recent one first, and counts how often it could
answer (`hits`) and how often it had to compute (`misses`).

| lookup | entries | counters |
| --- | --- | --- |
| key is there | its entry moves to the front | one hit more |
| key is not there, value computed | a new entry in front; the last ones beyond the limit go | one miss more |
| key is not there, computation fails | as they were | one miss more |

No limit keeps everything; a limit of zero or less keeps nothing, and one that is no machine
word is refused when a cache is made.  Clearing drops the entries and the counts.

A cache never holds more than its capacity: a new one does not (`new_within`), and a lookup keeps
it so (`Within.get`).

`Counted` is a cache in front of a source that counts its calls, so what the source gives may
differ from call to call.
-/

import TermStyle.OrderedMap
import TermStyle.Text.Basic

namespace TermStyle

/-- A cache that forgets the least recently used entry first. -/
structure Cache (κ β : Type) where
  /-- The limit on the number of entries, as it was given. -/
  limit : Option Int
  /-- The entries, the most recently used one first. -/
  entries : OrderedMap κ β
  /-- The number of lookups answered from the entries. -/
  hits : Nat
  /-- The number of lookups that had to compute. -/
  misses : Nat
  deriving DecidableEq, Repr

namespace Cache

variable {κ β ε : Type}

/-- An empty cache. -/
def new (limit : Option Int) : Cache κ β := ⟨limit, [], 0, 0⟩

/-- The greatest limit: the greatest signed word of 64 bits. -/
def greatestLimit : Int := 0x7FFFFFFFFFFFFFFF

/-- Why no cache is made. -/
inductive Refusal
  /-- The limit is above the greatest one. -/
  | limitTooGreat
  deriving DecidableEq, Repr

/-- What is said of a refusal. -/
def Refusal.message : Refusal → Text
  | .limitTooGreat => "cannot fit 'int' into an index-sized integer".toList

/-- An empty cache with a limit, if there can be so many entries. -/
def make (limit : Option Int) : Except Refusal (Cache κ β) :=
  if limit.any fun n => greatestLimit < n then .error .limitTooGreat else .ok (new limit)

/-- The greatest number of entries, where there is one. -/
def capacity (c : Cache κ β) : Option Nat := c.limit.map Int.toNat

/-- The cache without entries and counts. -/
def clear (c : Cache κ β) : Cache κ β := new c.limit

/-- The number of entries. -/
def size (c : Cache κ β) : Nat := c.entries.length

/-- The first entries, as many as the cache may keep. -/
def kept (c : Cache κ β) (entries : OrderedMap κ β) : OrderedMap κ β :=
  match c.capacity with
  | some n => entries.take n
  | none => entries

/-- What a cache keeps of entries is among them. -/
theorem mem_of_mem_kept {c : Cache κ β} {entries : OrderedMap κ β} {entry : κ × β}
    (h : entry ∈ c.kept entries) : entry ∈ entries := by
  unfold kept at h
  split at h
  · exact List.mem_of_mem_take h
  · exact h

variable [BEq κ]

/-- The value kept for a key. -/
def find? (c : Cache κ β) (key : κ) : Option β := c.entries.get? key

/-- The value for a key, from the entries or from the computation, and the cache after it. -/
def get (c : Cache κ β) (compute : κ → Except ε β) (key : κ) : Except ε β × Cache κ β :=
  match c.find? key with
  | some value =>
    (.ok value, { c with hits := c.hits + 1, entries := (key, value) :: c.entries.erase key })
  | none =>
    match compute key with
    | .error e => (.error e, { c with misses := c.misses + 1 })
    | .ok value =>
      (.ok value, { c with misses := c.misses + 1, entries := c.kept ((key, value) :: c.entries) })

/-- Whether the entries are within the capacity. -/
def Within (c : Cache κ β) : Prop := ∀ n, c.capacity = some n → c.size ≤ n

omit [BEq κ] in
theorem new_within (limit : Option Int) : (new limit : Cache κ β).Within := fun _ _ => Nat.zero_le _

/-- A key that is there is answered from the entries. -/
theorem get_of_find? {c : Cache κ β} {key : κ} {value : β} (h : c.find? key = some value)
    (compute : κ → Except ε β) :
    c.get compute key =
      (.ok value, { c with hits := c.hits + 1, entries := (key, value) :: c.entries.erase key }) := by
  simp [get, h]

/-- A key that is not there is answered by the computation. -/
theorem get_of_absent {c : Cache κ β} {key : κ} (h : c.find? key = none)
    (compute : κ → Except ε β) : (c.get compute key).1 = compute key := by
  cases hk : compute key <;> simp [get, h, hk]

/-- **A lookup keeps the cache within its capacity.** -/
theorem Within.get {c : Cache κ β} (h : c.Within) (compute : κ → Except ε β) (key : κ) :
    (c.get compute key).2.Within := by
  intro n hn
  cases hf : c.find? key with
  | some value =>
    have := OrderedMap.length_erase_of_get? hf
    rw [get_of_find? hf] at hn ⊢
    have := h n hn
    simp only [size, List.length_cons] at *
    omega
  | none =>
    cases hk : compute key with
    | error e =>
      simp only [Cache.get, hf, hk] at hn ⊢
      exact h n hn
    | ok value =>
      simp only [Cache.get, hf, hk] at hn ⊢
      have hc : c.capacity = some n := hn
      simp only [size, kept, hc, List.length_take]
      exact Nat.min_le_left ..

/-- A cache in front of a source that counts its calls. -/
structure Counted (κ β : Type) where
  /-- The cache. -/
  cache : Cache κ β
  /-- How often the source has been called. -/
  calls : Nat

namespace Counted

/-- The value for a key; a computation is told how many calls there have been, itself
included. -/
def get (c : Counted κ β) (source : Nat → κ → Except ε β) (key : κ) :
    Except ε β × Counted κ β :=
  let (answer, cache) := c.cache.get (source (c.calls + 1)) key
  (answer, ⟨cache, if (c.cache.find? key).isSome then c.calls else c.calls + 1⟩)

omit [BEq κ] in
/-- Drops the entries and the counts of the cache; the count of calls goes on. -/
def clear (c : Counted κ β) : Counted κ β := { c with cache := c.cache.clear }

end Counted

end Cache
end TermStyle
