/-
# What a cache counts

A cache counts how often it was asked for a key since it was cleared last: once as a hit, if the value was
there, or once as a miss, if the source had to be called, whatever came of the call.

| request | hits | misses | calls of the source |
| --- | --- | --- | --- |
| a key that is there | one more | | |
| another key, value computed | | one more | one more |
| another key, computation fails | | one more | one more |
| clearing | none | none | |

The calls are counted from the beginning, so those since the last clearing are the ones behind the requests up
to it (`untilClear`).  One lookup is one line of the table (`Counted.counts_get`), and the counts of a run follow
(`Recorded.counts_after`).

How many entries there are can be told from what the cache gave: it holds the latest value of each key, as many
as it may keep (`Recorded.Faithful`), so there is one entry for each key that was given a value, up to the limit
(`Recorded.Faithful.size_eq`).
-/

import Mathlib.Data.List.DropRight
import TermStyle.Proofs.Cache.Recency

namespace TermStyle
namespace Cache

variable {κ β ε : Type}

/-- Whether a key is asked for. -/
def Request.isGet : Request κ → Bool
  | .get _ => true
  | .clear => false

/-- The requests behind the last clearing. -/
def sinceClear (requests : List (Request κ)) : List (Request κ) := requests.rtakeWhile Request.isGet

/-- The requests up to the last clearing, this included. -/
def untilClear (requests : List (Request κ)) : List (Request κ) := requests.rdropWhile Request.isGet

variable [BEq κ]

/-- **A lookup is a hit, or it is a miss and calls the source.** -/
theorem Counted.counts_get (c : Counted κ β) (source : Nat → κ → Except ε β) (key : κ) :
    let after := (c.get source key).2
    (after.calls = c.calls ∧ after.cache.hits = c.cache.hits + 1 ∧ after.cache.misses = c.cache.misses) ∨
      (after.calls = c.calls + 1 ∧ after.cache.hits = c.cache.hits ∧
        after.cache.misses = c.cache.misses + 1) := by
  cases hfound : c.cache.find? key with
  | some value =>
    refine .inl ?_
    simp [Counted.get, hfound, get_of_find? hfound]
  | none =>
    refine .inr ?_
    cases hcompute : source (c.calls + 1) key <;> simp [Counted.get, Cache.get, hfound, hcompute]

namespace Recorded

theorem after_concat (limit : Option Int) (source : Nat → κ → Except ε β) (requests : List (Request κ))
    (last : Request κ) :
    after limit source (requests ++ [last]) = (after limit source requests).ask source last :=
  List.foldl_concat ..

/-- **The counts are those of the requests behind the last clearing,** and the source was called there as often
as there were misses. -/
theorem counts_after (limit : Option Int) (source : Nat → κ → Except ε β) (requests : List (Request κ)) :
    let r := (after limit source requests).counted
    r.cache.hits + r.cache.misses = (sinceClear requests).length ∧
      r.calls = (after limit source (untilClear requests)).counted.calls + r.cache.misses := by
  induction requests using List.reverseRecOn with
  | nil => exact ⟨rfl, rfl⟩
  | append_singleton requests last ih =>
    obtain ⟨hlookups, hcalls⟩ := ih
    cases last with
    | get key =>
      have hsince : sinceClear (requests ++ [.get key]) = sinceClear requests ++ [.get key] :=
        List.rtakeWhile_concat_pos _ _ _ rfl
      have huntil : untilClear (requests ++ [.get key]) = untilClear requests :=
        List.rdropWhile_concat_pos _ _ _ rfl
      rw [after_concat, hsince, huntil, List.length_append, List.length_singleton]
      have hstep := (after limit source requests).counted.counts_get source key
      dsimp only [ask] at hstep ⊢
      omega
    | clear =>
      have hsince : sinceClear (requests ++ [.clear]) = [] :=
        List.rtakeWhile_concat_neg _ _ _ Bool.false_ne_true
      have huntil : untilClear (requests ++ [.clear]) = requests ++ [.clear] :=
        List.rdropWhile_concat_neg _ _ _ Bool.false_ne_true
      rw [hsince, huntil, after_concat]
      exact ⟨rfl, rfl⟩

variable [LawfulBEq κ]

/-- **There is an entry for each key that was given a value,** up to the limit. -/
theorem Faithful.size_eq {limit : Option Int} {r : Recorded κ β ε} (h : r.Faithful limit) :
    r.counted.cache.size =
      match r.counted.cache.capacity with
      | some n => min n ((given r.past).map Prod.fst).eraseDups.length
      | none => ((given r.past).map Prod.fst).eraseDups.length := by
  rw [size, h.entries, kept, ← length_recent]
  cases r.counted.cache.capacity with
  | some n => exact List.length_take
  | none => rfl

/-- **What a cache says of itself is what happened.**  Requests are carried out one after another, beginning
with a new cache.  Then hits and misses together are the lookups since the last clearing; the misses are the
calls of the source since then, those that failed included; and there are as many entries as different keys that
were given a value since then, but no more than the limit, and none where it is zero or less. -/
theorem counts_since_clear (limit : Option Int) (source : Nat → κ → Except ε β) (requests : List (Request κ)) :
    let r := after limit source requests
    let cleared := after limit source (untilClear requests)
    let keysGiven := ((given r.past).map Prod.fst).eraseDups
    r.counted.cache.hits + r.counted.cache.misses = (sinceClear requests).length ∧
    r.counted.calls = cleared.counted.calls + r.counted.cache.misses ∧
    (limit = none → r.counted.cache.size = keysGiven.length) ∧
    ∀ m, limit = some m → (r.counted.cache.size : Int) = min (keysGiven.length : Int) (max m 0) := by
  intro r cleared keysGiven
  obtain ⟨hlookups, hcalls⟩ := counts_after limit source requests
  have hfaithful : r.Faithful limit := faithful_after limit source requests
  have hsize := hfaithful.size_eq
  rw [capacity, hfaithful.limit] at hsize
  refine ⟨hlookups, hcalls, ?_, ?_⟩
  · rintro rfl
    exact hsize
  · rintro m rfl
    have hcapped : r.counted.cache.size = min m.toNat keysGiven.length := hsize
    omega

/-- A cache of two is used, cleared, and then asked for three keys, one of them twice, and for one that has no
value: one of five lookups is a hit, four call the source, and the two keys that were used last are kept. -/
theorem counts_since_clear_refilled :
    let requests : List (Request Char) :=
      [.get 'a', .get 'b', .clear, .get 'a', .get 'x', .get 'b', .get 'b', .get 'c']
    let r := after (some 2) numbering requests
    r.counted.cache.hits + r.counted.cache.misses = 5 ∧ r.counted.calls = 2 + r.counted.cache.misses ∧
      (r.counted.cache.size : Int) = min 3 (max 2 0) ∧ r.counted.cache.misses = 4 := by
  intro requests r
  obtain ⟨hlookups, hcalls, -, hsize⟩ := counts_since_clear (some 2) numbering requests
  exact ⟨hlookups, hcalls, hsize 2 rfl, by decide⟩

end Recorded

end Cache
end TermStyle
