/-
# What a cache remembers

A cache is asked for values and cleared, in any order, and all that it does can be told from what happened
before: which keys it was asked for, what it gave, and when it was cleared (`Event`).  It is only ever asked in
the two ways of `Request`.

The values that were given since the last clearing, the latest one first, are `given`.  A key is recent by the
last time that a value was given for it, so of several values for one key the latest counts, and the keys stand
in the order in which they were used last (`recent`).  The cache holds as many of them as it may keep, and each
request leaves it so (`Recorded.Faithful.ask`):

| request | `given` | `recent` | entries |
| --- | --- | --- | --- |
| a key that is there | its value once more | the key comes to the front | the same, moved to the front |
| another key, value computed | the new value | the key comes to the front | a new one in front, the last one may go |
| another key, computation fails | as before | as before | as before |
| clearing | none | none | none |

So a key is answered without computing exactly if a value was given for it since the last clearing and fewer
other keys than the limit had a value after that (`Recorded.answered_iff_recalls`): with no limit, if it was
given at all, and never where the limit is zero or less.  The computation may be any, also one that
fails or gives something else each time, for it is told how often it has been called.
-/

import TermStyle.Cache
import TermStyle.Proofs.OrderedMap.Entries

namespace TermStyle
namespace Cache

variable {κ β ε : Type}

/-- What a cache can be asked. -/
inductive Request (κ : Type)
  /-- The value for a key. -/
  | get (key : κ)
  /-- Drop the entries and the counts. -/
  | clear

/-- What happened to a cache. -/
inductive Event (κ β ε : Type)
  /-- It was asked for a key and answered. -/
  | answered (key : κ) (answer : Except ε β)
  /-- It was cleared. -/
  | cleared

/-- The values that were given since the last clearing, each with its key, the latest one first.  The events
are told in the same order. -/
def given : List (Event κ β ε) → List (κ × β)
  | [] => []
  | .answered key (.ok value) :: past => (key, value) :: given past
  | .answered _ (.error _) :: past => given past
  | .cleared :: _ => []

variable [BEq κ]

/-- Whether a value is the latest one that was given for a key since the last clearing, and after it values
were given for fewer other keys than the limit. -/
def Recalls (limit : Option Int) (past : List (Event κ β ε)) (key : κ) (value : β) : Prop :=
  ∃ later earlier, given past = later ++ (key, value) :: earlier ∧ key ∉ later.map Prod.fst ∧
    ∀ m ∈ limit, ((later.map Prod.fst).eraseDups.length : Int) < m

/-- The values that were given, one for each key, in the order in which the keys were used last. -/
def recent : List (κ × β) → OrderedMap κ β
  | [] => []
  | (key, value) :: earlier => (key, value) :: (recent earlier).filter fun e => e.1 != key

/-- A cache in front of a source, and all that happened to it, the latest event first. -/
structure Recorded (κ β ε : Type) where
  /-- The cache and the count of the calls of its source. -/
  counted : Counted κ β
  /-- What happened. -/
  past : List (Event κ β ε)

namespace Recorded

/-- A new cache, to which nothing has happened. -/
def new (limit : Option Int) : Recorded κ β ε := ⟨⟨Cache.new limit, 0⟩, []⟩

/-- What a request makes of a cache. -/
def ask (source : Nat → κ → Except ε β) (r : Recorded κ β ε) : Request κ → Recorded κ β ε
  | .get key =>
    let (answer, counted) := r.counted.get source key
    ⟨counted, .answered key answer :: r.past⟩
  | .clear => ⟨r.counted.clear, .cleared :: r.past⟩

/-- A new cache after requests. -/
def after (limit : Option Int) (source : Nat → κ → Except ε β) (requests : List (Request κ)) :
    Recorded κ β ε :=
  requests.foldl (ask source) (new limit)

end Recorded

variable [LawfulBEq κ]

/-- To leave out repetitions and to keep some of the keys can be done in any order. -/
theorem eraseDups_filter (p : κ → Bool) : ∀ keys : List κ,
    (keys.filter p).eraseDups = keys.eraseDups.filter p
  | [] => rfl
  | key :: more => by
    have hothers := eraseDups_filter p (more.filter fun other => !other == key)
    rw [List.eraseDups_cons, List.filter_cons, List.filter_cons, ← hothers]
    split
    · rw [List.eraseDups_cons, List.filter_comm]
    · rename_i hkey
      have hgone : ∀ other ∈ more.filter p, (!other == key) = true := by
        intro other hother
        have hne : other ≠ key := fun heq => hkey (heq ▸ (List.mem_filter.1 hother).2)
        simpa using hne
      rw [List.filter_comm, List.filter_eq_self.2 hgone]
termination_by keys => keys.length
decreasing_by exact Nat.lt_succ_of_le (List.length_filter_le ..)

omit [LawfulBEq κ] in
theorem keys_recent_cons (entry : κ × β) (earlier : List (κ × β)) :
    (recent (entry :: earlier)).keys = entry.1 :: (recent earlier).keys.filter fun key => key != entry.1 :=
  congrArg (entry.1 :: ·) (OrderedMap.keys_filter _ fun key => key != entry.1)

/-- **The keys in the order of their last use:** those of the values that were given, each where it comes
first. -/
theorem keys_recent (past : List (κ × β)) : (recent past).keys = (past.map Prod.fst).eraseDups := by
  induction past with
  | nil => rfl
  | cons entry earlier ih =>
    rw [keys_recent_cons, ih, List.map_cons, List.eraseDups_cons, eraseDups_filter]
    rfl

theorem nodup_keys_recent (past : List (κ × β)) : (recent past).keys.Nodup := by
  induction past with
  | nil => exact List.nodup_nil
  | cons entry earlier ih =>
    rw [keys_recent_cons]
    exact List.nodup_cons.2 ⟨fun hmem => bne_iff_ne.1 (List.mem_filter.1 hmem).2 rfl, ih.filter _⟩

theorem length_recent (past : List (κ × β)) : (recent past).length = (past.map Prod.fst).eraseDups.length := by
  rw [← keys_recent, OrderedMap.keys, List.length_map]

theorem recent_cons (entry : κ × β) (earlier : List (κ × β)) :
    recent (entry :: earlier) = entry :: (recent earlier).erase entry.1 := by
  rw [recent, OrderedMap.erase_eq_filter (nodup_keys_recent earlier)]

/-- What was used later stands in front, and what was used earlier stands behind if it was not used again. -/
theorem recent_append (later earlier : List (κ × β)) :
    recent (later ++ earlier) =
      recent later ++ (recent earlier).filter fun e => !(later.map Prod.fst).contains e.1 := by
  induction later with
  | nil => simp [recent]
  | cons entry later ih =>
    rw [List.cons_append, recent, ih, List.filter_append, List.filter_filter]
    simp [recent, bne]

section Latest

variable {later earlier : List (κ × β)} {key : κ} {value : β} (h : key ∉ later.map Prod.fst)
include h

/-- The latest value of a key stands behind those of the keys that were used later. -/
theorem exists_recent_eq :
    ∃ older, recent (later ++ (key, value) :: earlier) = recent later ++ (key, value) :: older := by
  have hkept : (!(later.map Prod.fst).contains key) = true := by simpa using h
  rw [recent_append, recent, List.filter_cons, if_pos hkept]
  exact ⟨_, rfl⟩

theorem not_mem_keys_recent : key ∉ (recent later).keys := by
  rwa [keys_recent, List.mem_eraseDups]

/-- **The latest value of a key is kept** where fewer other keys were used later than there is room for. -/
theorem get?_kept_of_lt {c : Cache κ β}
    (hroom : ∀ n ∈ c.capacity, (later.map Prod.fst).eraseDups.length < n) :
    (c.kept (recent (later ++ (key, value) :: earlier))).get? key = some value := by
  obtain ⟨older, hrecent⟩ : ∃ older, recent (later ++ (key, value) :: earlier) =
    recent later ++ (key, value) :: older := exists_recent_eq h
  have hfound : ∀ rest, OrderedMap.get? (recent later ++ (key, value) :: rest) key = some value := by
    intro rest
    rw [OrderedMap.get?_append_of_not_mem (not_mem_keys_recent h), OrderedMap.get?, if_pos BEq.rfl]
  rw [hrecent, kept]
  split
  · rename_i n hn
    have hlt := hroom n hn
    rw [← length_recent] at hlt
    obtain ⟨room, rfl⟩ := Nat.exists_eq_add_of_lt hlt
    rw [Nat.add_assoc, List.take_length_add_append, List.take_succ_cons]
    exact hfound _
  · exact hfound _

/-- **It is gone** where there are as many of them as there is room. -/
theorem get?_kept_of_le {c : Cache κ β} {n : Nat} (hn : c.capacity = some n)
    (hfull : n ≤ (later.map Prod.fst).eraseDups.length) :
    (c.kept (recent (later ++ (key, value) :: earlier))).get? key = none := by
  obtain ⟨older, hrecent⟩ : ∃ older, recent (later ++ (key, value) :: earlier) =
    recent later ++ (key, value) :: older := exists_recent_eq h
  rw [← length_recent] at hfull
  simp only [hrecent, kept, hn, List.take_append_of_le_length hfull]
  refine OrderedMap.get?_eq_none_iff.2 fun hmem => not_mem_keys_recent h ?_
  exact ((List.take_sublist n _).map Prod.fst).subset hmem

end Latest

omit [BEq κ] [LawfulBEq κ] in
/-- A key for which a value was given has a latest one. -/
theorem exists_latest {past : List (κ × β)} {key : κ} (h : key ∈ past.map Prod.fst) :
    ∃ later value earlier, past = later ++ (key, value) :: earlier ∧ key ∉ later.map Prod.fst := by
  obtain ⟨before, after, hkeys, hbefore⟩ := List.eq_append_cons_of_mem h
  obtain ⟨later, rest, rfl, rfl, hrest⟩ := List.map_eq_append_iff.1 hkeys
  obtain ⟨entry, earlier, rfl, rfl, rfl⟩ := List.map_eq_cons_iff.1 hrest
  exact ⟨later, entry.2, earlier, rfl, hbefore⟩

omit [LawfulBEq κ] in
/-- Without a limit, whatever was given is recalled. -/
theorem exists_recalls_none_iff {past : List (Event κ β ε)} {key : κ} :
    (∃ value, Recalls none past key value) ↔ key ∈ (given past).map Prod.fst := by
  constructor
  · rintro ⟨value, later, earlier, hpast, -, -⟩
    rw [hpast]
    exact List.mem_map.2 ⟨(key, value), List.mem_append_right _ (List.mem_cons_self ..), rfl⟩
  · intro hgiven
    obtain ⟨later, value, earlier, hpast, hlater⟩ := exists_latest hgiven
    exact ⟨value, later, earlier, hpast, hlater, nofun⟩

omit [LawfulBEq κ] in
/-- With a limit of zero or less, nothing is recalled. -/
theorem not_recalls_of_nonpos {m : Int} (hm : m ≤ 0) {past : List (Event κ β ε)} {key : κ} {value : β} :
    ¬ Recalls (some m) past key value := by
  rintro ⟨later, -, -, -, hroom⟩
  have hlt := hroom m rfl
  omega

omit [LawfulBEq κ] in
theorem limit_get (c : Cache κ β) (compute : κ → Except ε β) (key : κ) :
    (c.get compute key).2.limit = c.limit := by
  unfold Cache.get
  split
  · rfl
  · split <;> rfl

omit [LawfulBEq κ] in
/-- What is kept of a new entry in front of those that were kept is what is kept of it in front of all. -/
theorem kept_cons_erase (c : Cache κ β) (entry : κ × β) (entries : OrderedMap κ β) :
    c.kept (entry :: (c.kept entries).erase entry.1) = c.kept (entry :: entries.erase entry.1) := by
  unfold kept
  split
  · rename_i n hn
    cases n with
    | zero => rfl
    | succ n => rw [List.take_succ_cons, List.take_succ_cons, OrderedMap.take_erase_take]
  · rfl

omit [BEq κ] [LawfulBEq κ] in
/-- What fits is kept. -/
theorem kept_of_within {c : Cache κ β} {entries : OrderedMap κ β}
    (h : ∀ n, c.capacity = some n → entries.length ≤ n) : c.kept entries = entries := by
  unfold kept
  split
  · rename_i n hn
    exact List.take_of_length_le (h n hn)
  · rfl

omit [LawfulBEq κ] in
/-- **A value that is given is the newest entry,** wherever it came from. -/
theorem entries_get_of_ok {c : Cache κ β} (hc : c.Within) {compute : κ → Except ε β} {key : κ} {value : β}
    (h : (c.get compute key).1 = .ok value) :
    (c.get compute key).2.entries = c.kept ((key, value) :: c.entries.erase key) := by
  cases hfound : c.find? key with
  | some found =>
    rw [get_of_find? hfound] at h ⊢
    cases h
    refine (kept_of_within fun n hn => ?_).symm
    rw [List.length_cons, OrderedMap.length_erase_of_get? hfound]
    exact hc n hn
  | none =>
    rw [get_of_absent hfound] at h
    simp only [Cache.get, hfound, h, OrderedMap.erase_of_get?_eq_none hfound]

omit [LawfulBEq κ] in
/-- A computation that fails leaves the entries as they were. -/
theorem entries_get_of_error {c : Cache κ β} {compute : κ → Except ε β} {key : κ} {e : ε}
    (h : (c.get compute key).1 = .error e) : (c.get compute key).2.entries = c.entries := by
  unfold Cache.get at h ⊢
  split at h
  · cases h
  · split at h
    · rename_i hcompute
      rfl
    · cases h

namespace Recorded

variable {limit : Option Int} {r : Recorded κ β ε}

/-- Whether the entries of a cache are the recent values, as many as it may keep. -/
structure Faithful (limit : Option Int) (r : Recorded κ β ε) : Prop where
  /-- The limit is the one that was given. -/
  limit : r.counted.cache.limit = limit
  /-- The entries are the first ones of the recent values. -/
  entries : r.counted.cache.entries = r.counted.cache.kept (recent (given r.past))

omit [LawfulBEq κ] in
theorem Faithful.within (h : r.Faithful limit) : r.counted.cache.Within := by
  intro n hn
  rw [size, h.entries, kept, hn]
  exact List.length_take_le ..

/-- **A request keeps a cache faithful** to what happened. -/
theorem Faithful.ask (h : r.Faithful limit) (source : Nat → κ → Except ε β) (request : Request κ) :
    (r.ask source request).Faithful limit := by
  cases request with
  | get key =>
    let compute := source (r.counted.calls + 1)
    -- How much is kept depends on the limit alone, so it is the same before and after.
    have hlimit : (r.counted.cache.get compute key).2.limit = r.counted.cache.limit := limit_get ..
    have hkept : (r.counted.cache.get compute key).2.kept = r.counted.cache.kept := by
      funext entries
      simp only [kept, capacity, hlimit]
    refine ⟨hlimit.trans h.limit, ?_⟩
    change (r.counted.cache.get compute key).2.entries = (r.counted.cache.get compute key).2.kept
      (recent (given (.answered key (r.counted.cache.get compute key).1 :: r.past)))
    rw [hkept]
    cases hanswer : (r.counted.cache.get compute key).1 with
    | ok value =>
      rw [entries_get_of_ok h.within hanswer, h.entries, given, recent_cons]
      exact kept_cons_erase _ (key, value) _
    | error e => rw [entries_get_of_error hanswer, h.entries, given]
  | clear =>
    refine ⟨h.limit, (kept_of_within fun n _ => ?_).symm⟩
    exact Nat.zero_le n

theorem Faithful.asks (h : r.Faithful limit) (source : Nat → κ → Except ε β) (requests : List (Request κ)) :
    (requests.foldl (Recorded.ask source) r).Faithful limit := by
  induction requests generalizing r with
  | nil => exact h
  | cons request more ih => exact ih (h.ask source request)

omit [LawfulBEq κ] in
theorem faithful_new (limit : Option Int) : (new limit : Recorded κ β ε).Faithful limit := by
  refine ⟨rfl, (kept_of_within fun n _ => ?_).symm⟩
  exact Nat.zero_le n

/-- **Whatever is asked of a new cache, it is faithful to what happened.** -/
theorem faithful_after (limit : Option Int) (source : Nat → κ → Except ε β) (requests : List (Request κ)) :
    (after limit source requests).Faithful limit :=
  (faithful_new limit).asks source requests

/-- **What a faithful cache finds is what it recalls.** -/
theorem Faithful.find?_eq_some_iff (h : r.Faithful limit) {key : κ} {value : β} :
    r.counted.cache.find? key = some value ↔ Recalls limit r.past key value := by
  have hcapacity : ∀ {count : Nat}, (∀ n ∈ r.counted.cache.capacity, count < n) ↔
      ∀ m ∈ limit, (count : Int) < m := by
    intro count
    rw [← h.limit, capacity]
    cases r.counted.cache.limit with
    | none => simp
    | some m => simp
  rw [find?, h.entries]
  constructor
  · intro hfound
    by_cases hgiven : key ∈ (given r.past).map Prod.fst
    · obtain ⟨later, latest, earlier, hpast, hlater⟩ := exists_latest hgiven
      rw [hpast] at hfound
      have hroom : ∀ n ∈ r.counted.cache.capacity, (later.map Prod.fst).eraseDups.length < n := by
        intro n hn
        refine Nat.lt_of_not_le fun hfull => ?_
        rw [get?_kept_of_le hlater hn hfull] at hfound
        cases hfound
      rw [get?_kept_of_lt hlater hroom] at hfound
      cases hfound
      exact ⟨later, earlier, hpast, hlater, hcapacity.1 hroom⟩
    · have habsent : key ∉ (recent (given r.past)).keys := not_mem_keys_recent hgiven
      have hmem := mem_of_mem_kept (OrderedMap.mem_of_get? hfound)
      exact absurd (List.mem_map.2 ⟨_, hmem, rfl⟩) habsent
  · rintro ⟨later, earlier, hpast, hlater, hroom⟩
    rw [hpast]
    exact get?_kept_of_lt hlater (hcapacity.2 hroom)

/-- **A cache forgets the least recently used key first.**  Requests are carried out one after another,
beginning with a new cache, and then a key is asked for.  The source is not called exactly if a value is
recalled for the key: one was given since the last clearing, and after the latest one values were given for
fewer other keys than the limit.  Then this value is the answer, whatever the source would give now; otherwise
the source is called once, and what it gives is the answer.  Without a limit a value is recalled for every key
that was given one since the last clearing, and with a limit of zero or less the source is always called. -/
theorem answered_iff_recalls (limit : Option Int) (source : Nat → κ → Except ε β)
    (requests : List (Request κ)) (key : κ) :
    let r := after limit source requests
    let calls := (r.counted.get source key).2.calls
    (calls = r.counted.calls ↔ ∃ value, Recalls limit r.past key value) ∧
    (∀ value, Recalls limit r.past key value →
      ∀ other : Nat → κ → Except ε β, (r.counted.get other key).1 = .ok value) ∧
    ((¬ ∃ value, Recalls limit r.past key value) →
      calls = r.counted.calls + 1 ∧ (r.counted.get source key).1 = source calls key) ∧
    (limit = none → ((∃ value, Recalls limit r.past key value) ↔ key ∈ (given r.past).map Prod.fst)) ∧
    ∀ m, limit = some m → m ≤ 0 → calls = r.counted.calls + 1 := by
  intro r calls
  have hr : r.Faithful limit := faithful_after limit source requests
  have hcalls : calls = if (r.counted.cache.find? key).isSome then r.counted.calls else r.counted.calls + 1 := rfl
  have hfound : (r.counted.cache.find? key).isSome = true ↔ ∃ value, Recalls limit r.past key value := by
    simp only [Option.isSome_iff_exists, hr.find?_eq_some_iff]
  have hcomputes : (¬ ∃ value, Recalls limit r.past key value) → calls = r.counted.calls + 1 := fun hnot => by
    rw [hcalls, if_neg (mt hfound.1 hnot)]
  refine ⟨⟨fun hsame => ?_, fun hrecalls => ?_⟩, fun value hrecalls other => ?_, fun hnot => ⟨hcomputes hnot, ?_⟩,
    ?_, ?_⟩
  · exact Classical.byContradiction fun hnot => by
      have hmore := hcomputes hnot
      omega
  · rw [hcalls, if_pos (hfound.2 hrecalls)]
  · exact congrArg Prod.fst (get_of_find? (hr.find?_eq_some_iff.2 hrecalls) (other (r.counted.calls + 1)))
  · rw [hcomputes hnot]
    exact get_of_absent (Option.not_isSome_iff_eq_none.1 (mt hfound.1 hnot)) (source (r.counted.calls + 1))
  · rintro rfl
    exact exists_recalls_none_iff
  · rintro m rfl hm
    exact hcomputes fun ⟨value, hrecalls⟩ => not_recalls_of_nonpos hm hrecalls

/-- A source that has no value for one key, and otherwise tells how often it was called. -/
def numbering (calls : Nat) (key : Char) : Except Unit Nat := if key = 'x' then .error () else .ok calls

/-- Of two keys that fit into a cache, the first is used once more; then a computation fails, and a third key
comes in.  The first is answered with its old value, and the second was forgotten. -/
theorem answered_iff_recalls_used_again :
    let r := after (some 2) numbering [.get 'a', .get 'b', .get 'a', .get 'x', .get 'c']
    Recalls (some 2) r.past 'a' 1 ∧
    (∀ other : Nat → Char → Except Unit Nat, (r.counted.get other 'a').1 = .ok 1) ∧
    ¬ (∃ value, Recalls (some 2) r.past 'b' value) ∧ (r.counted.get numbering 'b').1 = .ok 5 := by
  intro r
  have hrecalls : Recalls (some 2) r.past 'a' 1 :=
    ⟨[('c', 4)], [('b', 2), ('a', 1)], rfl, by decide, by decide⟩
  obtain ⟨-, hanswer, -⟩ := answered_iff_recalls (some 2) numbering
    [.get 'a', .get 'b', .get 'a', .get 'x', .get 'c'] 'a'
  obtain ⟨hiff, -, hcomputed, -⟩ := answered_iff_recalls (some 2) numbering
    [.get 'a', .get 'b', .get 'a', .get 'x', .get 'c'] 'b'
  have hforgotten : ¬ ∃ value, Recalls (some 2) r.past 'b' value :=
    fun hvalue => absurd (hiff.2 hvalue) (by decide)
  exact ⟨hrecalls, hanswer 1 hrecalls, hforgotten, (hcomputed hforgotten).2⟩

end Recorded

end Cache
end TermStyle
