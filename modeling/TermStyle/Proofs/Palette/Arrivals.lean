/-
# Names in the order of their arrival

What a palette holds can be kept in another way: the names, in the order in which they came in, and for
each of them its value (`Arrivals`).  Two things can happen to a name.  It is written: if it is there
already it keeps its place, and otherwise it comes last.  Or it is removed, and then nothing is left of its
place.  Every request is one of the two, or several, one after another:

| request | what happens to the names |
| --- | --- |
| `set` | it is written, if the pair is accepted |
| `update` | those before the first pair that is not accepted are written |
| `setDefault` | it is written if it is not there and the pair is accepted |
| `delete`, `pop` | it is removed |
| `popFirst` | the first one is removed |
| `clear` | all are removed |
| any other | nothing |

So much is asked of any map that remembers in which order its names came in.  `Keeps` says that a palette
has these names in this order and with these values; each request preserves it (`Keeps.perform`), and what
the palette holds can be read off the names (`Keeps.eq_items`).  `entries_after` is the whole account of a
palette over any number of requests.

A palette reports its changes, one for each name that is written or removed: how many there are is another
thing that can be read off a request (`length_changes`).
-/

import TermStyle.Proofs.OrderedMap.Entries
import TermStyle.Proofs.Palette.Sound
import TermStyle.Proofs.Session.Failures

namespace TermStyle

namespace Palette

/-- The palette after requests. -/
def after (p : Palette) (requests : List Request) : Palette :=
  requests.foldl (fun q request => (q.perform request).palette) p

/-- The name and the value that a pair is, if both are accepted: a text that is not empty and has no
blank, and a text of digits, colons and semicolons. -/
def accepted? : Datum → Datum → Option (Text × Text)
  | .text name, .text value =>
    if name ≠ [] ∧ name.all (fun c => !Text.isBlank c) ∧
        value.all (fun c => c.isDigit || c == ':' || c == ';') then
      some (name, value)
    else none
  | _, _ => none

/-- Names in the order in which they came in, and what stands under a name. -/
structure Arrivals where
  /-- The names. -/
  order : List Text
  /-- The value under a name. -/
  value : Text → Option Text

namespace Arrivals

/-- No name has come in. -/
def none : Arrivals := ⟨[], fun _ => .none⟩

/-- A name is written. -/
def write (a : Arrivals) (name value : Text) : Arrivals where
  order := if a.order.contains name then a.order else a.order ++ [name]
  value := fun n => if n = name then some value else a.value n

/-- A name is removed. -/
def remove (a : Arrivals) (name : Text) : Arrivals where
  order := a.order.filter (· != name)
  value := fun n => if n = name then .none else a.value n

/-- Pairs are written one after another, up to the first one that is not accepted. -/
def writeAll : Arrivals → List (Datum × Datum) → Arrivals
  | a, [] => a
  | a, (name, value) :: more =>
    match accepted? name value with
    | some (n, v) => writeAll (a.write n v) more
    | .none => a

/-- What a request does to the names. -/
def ask (a : Arrivals) : Request → Arrivals
  | .set name value => a.writeAll [(name, value)]
  | .update pairs => a.writeAll pairs
  | .setDefault (.text name) value =>
    if a.order.contains name then a else a.writeAll [(.text name, value)]
  | .delete (.text name) | .pop (.text name) _ => a.remove name
  | .popFirst => (a.order.head?.map a.remove).getD a
  | .clear => none
  | _ => a

/-- What requests do to the names. -/
def after (a : Arrivals) (requests : List Request) : Arrivals := requests.foldl ask a

/-- The names with their values. -/
def items (a : Arrivals) : List (Text × Text) :=
  a.order.filterMap fun name => (a.value name).map fun value => (name, value)

end Arrivals

theorem isParameterChar_iff {c : Char} :
    Sgr.isParameterChar c = true ↔ c.isDigit ∨ c = ':' ∨ c = ';' := by
  simp [Sgr.isParameterChar, or_assoc]

/-- **A text is its only word** exactly if it is not empty and has no blank. -/
theorem words_eq_singleton_iff {name : Text} :
    Text.words name = [name] ↔ name ≠ [] ∧ ∀ c ∈ name, Text.isBlank c = false := by
  constructor
  · intro h
    exact Text.not_isBlank_of_mem_words (h ▸ List.mem_singleton_self name)
  · exact fun h => Text.words_of_word h.1 h.2

/-- **What is accepted is what a palette can hold.** -/
theorem accepted?_text_iff {name value : Text} :
    (name ≠ [] ∧ name.all (fun c => !Text.isBlank c) ∧
        value.all fun c => c.isDigit || c == ':' || c == ';') ↔
      name ≠ [] ∧ (∀ c ∈ name, Text.isBlank c = false) ∧ ∀ c ∈ value, c.isDigit ∨ c = ':' ∨ c = ';' := by
  simp [or_assoc]

theorem accepted?_eq_some_iff {name value : Datum} {n v : Text} :
    accepted? name value = some (n, v) ↔ checkName name = .ok n ∧ checkValue name value = .ok v := by
  constructor
  · intro hpair
    unfold accepted? at hpair
    split at hpair
    · split at hpair
      · rename_i hgood
        obtain ⟨hne, hblank, hchars⟩ := accepted?_text_iff.1 hgood
        cases hpair
        exact ⟨checkName_eq_ok_iff.2 ⟨rfl, words_eq_singleton_iff.2 ⟨hne, hblank⟩⟩,
          checkValue_eq_ok_iff.2 ⟨rfl, fun c hc => isParameterChar_iff.2 (hchars c hc)⟩⟩
      · cases hpair
    · cases hpair
  · rintro ⟨hname, hvalue⟩
    obtain ⟨rfl, hword⟩ := checkName_eq_ok_iff.1 hname
    obtain ⟨rfl, hchars⟩ := checkValue_eq_ok_iff.1 hvalue
    obtain ⟨hne, hblank⟩ := words_eq_singleton_iff.1 hword
    have hgood := And.intro hne (And.intro hblank fun c hc => isParameterChar_iff.1 (hchars c hc))
    simp only [accepted?, if_pos (accepted?_text_iff.2 hgood)]

/-- **A pair is written if it is accepted,** and refused otherwise. -/
theorem set_cases_accepted? (p : Palette) (name value : Datum) :
    (∃ n v, accepted? name value = some (n, v) ∧
        p.set name value = ⟨p.put n v, [.set n v], .ok .done⟩) ∨
      accepted? name value = none ∧ ∃ r, p.set name value = p.answer (.error r) := by
  rcases p.set_cases name value with ⟨r, hset⟩ | ⟨n, v, hname, hvalue, hset⟩
  · refine .inr ⟨Option.eq_none_iff_forall_ne_some.2 fun pair hpair => ?_, r, hset⟩
    obtain ⟨hname, hvalue⟩ := accepted?_eq_some_iff.1 hpair
    simp only [set, hname, hvalue] at hset
    cases congrArg Outcome.reply hset
  · exact .inl ⟨n, v, accepted?_eq_some_iff.2 ⟨hname, hvalue⟩, hset⟩

/-- Whether a palette has exactly these names, in their order and with their values. -/
structure Keeps (p : Palette) (a : Arrivals) : Prop where
  /-- The names are the same, in the same order. -/
  keys : p.keys = a.order
  /-- The values are the same. -/
  value : ∀ name, p.get? name = a.value name
  /-- No name is there twice. -/
  distinct : p.keys.Nodup

theorem Keeps.nil : Keeps [] .none := ⟨rfl, fun _ => rfl, List.nodup_nil⟩

/-- **What a palette holds can be read off the names.** -/
theorem Keeps.eq_items {p : Palette} {a : Arrivals} (h : Keeps p a) : p = a.items := by
  rw [Arrivals.items, ← h.keys]
  simp only [← h.value]
  exact (OrderedMap.filterMap_keys h.distinct).symm

theorem Keeps.write {p : Palette} {a : Arrivals} (h : Keeps p a) (name value : Text) :
    Keeps (p.put name value) (a.write name value) where
  keys := by
    simp only [Arrivals.write, ← h.keys]
    split
    · rename_i hmem
      exact OrderedMap.keys_put_of_mem (List.contains_iff_mem.1 hmem) value
    · rename_i hnew
      exact OrderedMap.keys_put_of_not_mem (fun hmem => hnew (List.contains_iff_mem.2 hmem)) value
  value n := by
    simp only [Arrivals.write]
    split
    · rename_i hsame
      rw [hsame, OrderedMap.get?_put_self]
    · rename_i hother
      rw [OrderedMap.get?_put_of_ne p (Ne.symm hother), h.value]
  distinct := OrderedMap.nodup_keys_put h.distinct name value

theorem Keeps.remove {p : Palette} {a : Arrivals} (h : Keeps p a) (name : Text) :
    Keeps (p.erase name) (a.remove name) where
  keys := by
    rw [OrderedMap.keys_erase, h.distinct.erase_eq_filter, h.keys, Arrivals.remove]
  value n := by
    simp only [Arrivals.remove]
    split
    · rename_i hsame
      rw [hsame, OrderedMap.get?_eq_none_iff, OrderedMap.keys_erase]
      exact h.distinct.not_mem_erase
    · rename_i hother
      rw [OrderedMap.get?_erase_of_ne p (Ne.symm hother), h.value]
  distinct := by
    rw [OrderedMap.keys_erase]
    exact h.distinct.erase name

theorem Keeps.writeAll {p : Palette} {a : Arrivals} (h : Keeps p a) (pairs : List (Datum × Datum)) :
    Keeps (p.update pairs).palette (a.writeAll pairs) := by
  induction pairs generalizing p a with
  | nil => exact h
  | cons pair more ih =>
    obtain ⟨name, value⟩ := pair
    simp only [update, Arrivals.writeAll]
    rcases p.set_cases_accepted? name value with ⟨n, v, haccepted, hset⟩ | ⟨hrefused, r, hset⟩
    · rw [haccepted, hset]
      exact ih (h.write n v)
    · rw [hrefused, hset]
      exact h

/-- To write one pair is to update with it alone. -/
theorem palette_set_eq (p : Palette) (name value : Datum) :
    (p.set name value).palette = (p.update [(name, value)]).palette := by
  rcases p.set_cases name value with ⟨r, hset⟩ | ⟨n, v, -, -, hset⟩ <;> simp only [update, hset] <;> rfl

/-- To take the entry of a name is to take it out, if it is there. -/
theorem palette_take_eq (p : Palette) (name : Text) (present : Text → Reply)
    (missing : Except Refusal Reply) : (p.take (.text name) present missing).palette = p.erase name := by
  simp only [take]
  cases hfound : p.get? name with
  | some v => rfl
  | none => exact (OrderedMap.erase_of_get?_eq_none hfound).symm

/-- **A request does to a palette what it does to the names.** -/
theorem Keeps.perform {p : Palette} {a : Arrivals} (h : Keeps p a) (request : Request) :
    Keeps (p.perform request).palette (a.ask request) := by
  cases request with
  | set name value =>
    simp only [Palette.perform, palette_set_eq]
    exact h.writeAll [(name, value)]
  | update pairs => exact h.writeAll pairs
  | delete name =>
    cases name with
    | text t =>
      simp only [Palette.perform, palette_take_eq]
      exact h.remove t
    | _ => exact h
  | pop name fallback =>
    cases name with
    | text t =>
      simp only [Palette.perform, palette_take_eq]
      exact h.remove t
    | _ => exact h
  | popFirst =>
    have hfirst : a.order.head? = p.keys.head? := by rw [h.keys]
    simp only [Arrivals.ask, hfirst]
    cases p with
    | nil => exact h
    | cons entry more => exact h.remove entry.1
  | clear => exact .nil
  | setDefault name fallback =>
    cases name with
    | text t =>
      have hthere : a.order.contains t = true ↔ p.get? t ≠ none := by
        rw [List.contains_iff_mem, ← h.keys, Ne, OrderedMap.get?_eq_none_iff, not_not]
      have hfind : p.find (.text t) = .ok (p.get? t) := rfl
      simp only [Palette.perform, hfind, Arrivals.ask, hthere]
      cases hfound : p.get? t with
      | some v =>
        rw [if_pos (Option.some_ne_none v)]
        exact h
      | none =>
        rw [if_neg (fun hne => hne rfl)]
        simp only [setAbsent, palette_set_eq]
        exact h.writeAll [(.text t, fallback)]
    | _ => exact h
  | get | lookup | getOr | has | size | names | items | shown | sameAs => exact h

theorem Keeps.after {p : Palette} {a : Arrivals} (h : Keeps p a) (requests : List Request) :
    Keeps (p.after requests) (a.after requests) := by
  induction requests generalizing p a with
  | nil => exact h
  | cons request more ih => exact ih (h.perform request)

/-- A new palette is the one without entries, updated with its entries. -/
theorem palette_update_of_addEntries {p q : Palette} {entries : List (Datum × Datum)}
    (h : addEntries p entries = .ok q) : (p.update entries).palette = q := by
  induction entries generalizing p with
  | nil =>
    cases h
    rfl
  | cons entry more ih =>
    obtain ⟨name, value⟩ := entry
    simp only [addEntries] at h
    split at h
    · cases h
    · rename_i v hvalue
      split at h
      · cases h
      · rename_i n hname
        simp only [update, set, hname, hvalue]
        exact ih h

/-- **An update that fails is one with the pairs before the first that is not accepted.** -/
theorem update_of_error {p : Palette} {pairs : List (Datum × Datum)} {r : Refusal}
    (h : (p.update pairs).reply = .error r) :
    ∃ done name value more, pairs = done ++ (name, value) :: more ∧
      (∀ pair ∈ done, (accepted? pair.1 pair.2).isSome = true) ∧ accepted? name value = none ∧
      (p.update done).reply = .ok .done ∧ (p.update pairs).palette = (p.update done).palette := by
  induction pairs generalizing p with
  | nil => cases h
  | cons pair more ih =>
    obtain ⟨name, value⟩ := pair
    simp only [update] at h ⊢
    rcases p.set_cases_accepted? name value with ⟨n, v, haccepted, hset⟩ | ⟨hrefused, r', hset⟩
    · rw [hset] at h ⊢
      obtain ⟨done, name', value', rest, rfl, hdone, hrefused, hreply, hpalette⟩ := ih h
      refine ⟨(name, value) :: done, name', value', rest, rfl, ?_, hrefused, ?_, ?_⟩
      · exact List.forall_mem_cons.2 ⟨by rw [haccepted]; rfl, hdone⟩
      · simp only [update, hset]
        exact hreply
      · simp only [update, hset]
        exact hpalette
    · rw [hset] at h ⊢
      exact ⟨[], name, value, more, rfl, fun _ hmem => absurd hmem List.not_mem_nil, hrefused, rfl, rfl⟩

/-- How many of some pairs stand before the first one that is not accepted. -/
def acceptedFirst (pairs : List (Datum × Datum)) : Nat :=
  (pairs.takeWhile fun pair => (accepted? pair.1 pair.2).isSome).length

/-- How many entries a request writes or removes. -/
def changeCount (p : Palette) : Request → Nat
  | .set name value => acceptedFirst [(name, value)]
  | .update pairs => acceptedFirst pairs
  | .setDefault name value => if (p.lookup name).isSome then 0 else acceptedFirst [(name, value)]
  | .delete name | .pop name _ => if (p.lookup name).isSome then 1 else 0
  | .popFirst => if p.isEmpty then 0 else 1
  | .clear => p.length
  | _ => 0

theorem length_changes_update (p : Palette) (pairs : List (Datum × Datum)) :
    (p.update pairs).changes.length = acceptedFirst pairs := by
  induction pairs generalizing p with
  | nil => rfl
  | cons pair more ih =>
    obtain ⟨name, value⟩ := pair
    rcases p.set_cases_accepted? name value with ⟨n, v, haccepted, hset⟩ | ⟨hrefused, r, hset⟩
    · simp only [update, hset, acceptedFirst, List.takeWhile_cons, haccepted, Option.isSome_some, if_true,
        List.singleton_append, List.length_cons] at ih ⊢
      rw [ih]
    · simp only [update, hset, acceptedFirst, List.takeWhile_cons, hrefused, Option.isSome_none]
      rfl

theorem length_changes_set (p : Palette) (name value : Datum) :
    (p.set name value).changes.length = acceptedFirst [(name, value)] := by
  rw [← p.length_changes_update]
  rcases p.set_cases name value with ⟨r, hset⟩ | ⟨n, v, -, -, hset⟩ <;> simp only [update, hset] <;> rfl

theorem length_changes_take (p : Palette) (name : Datum) (present : Text → Reply)
    (missing : Except Refusal Reply) :
    (p.take name present missing).changes.length = if (p.lookup name).isSome then 1 else 0 := by
  cases name with
  | text t =>
    have hlookup : p.lookup (.text t) = p.get? t := rfl
    rw [hlookup, take]
    cases p.get? t <;> rfl
  | _ => rfl

/-- **Every entry that is written or removed is one change,** and nothing else is. -/
theorem length_changes (p : Palette) (request : Request) :
    (p.perform request).changes.length = p.changeCount request := by
  cases request with
  | set name value => exact p.length_changes_set name value
  | update pairs => exact p.length_changes_update pairs
  | delete name => exact p.length_changes_take name _ _
  | pop name fallback => exact p.length_changes_take name _ _
  | popFirst => cases p <;> rfl
  | clear =>
    simp only [Palette.perform, changeCount, OrderedMap.keys, List.length_map]
  | setDefault name fallback =>
    simp only [Palette.perform, changeCount, find]
    split
    · rename_i hfind
      split at hfind
      · cases hfind
      · rename_i hhash
        cases name <;> first | exact absurd rfl hhash | rfl
    · rename_i hfind
      split at hfind
      · rw [Except.ok.inj hfind]
        rfl
      · cases hfind
    · rename_i hfind
      split at hfind
      · rw [Except.ok.inj hfind]
        exact p.length_changes_set name fallback
      · cases hfind
  | get | lookup | getOr | has | size | names | items | shown | sameAs => rfl

theorem Sound.after {p : Palette} (h : p.Sound) (requests : List Request) : (p.after requests).Sound := by
  induction requests generalizing p with
  | nil => exact h
  | cons request more ih => exact ih ((edits_perform p request).sound h)

/-- **What a palette holds after any number of requests.**  Its entries are the names that are there, in
the order in which they came in, with their values.  The names are distinct, not empty and without
blanks, and the values consist of digits, colons and semicolons.  A request that fails leaves the entries
as they were, unless it is an update; and an update that fails does what it would have done with the pairs
before the first one that is not accepted. -/
theorem entries_after {entries : List (Datum × Datum)} {p : Palette} (h : ofEntries entries = .ok p)
    (requests : List Request) :
    p.after requests = ((Arrivals.none.writeAll entries).after requests).items ∧
    (p.after requests).keys.Nodup ∧
    (∀ e ∈ p.after requests, e.1 ≠ [] ∧ (∀ c ∈ e.1, Text.isBlank c = false) ∧
      ∀ c ∈ e.2, c.isDigit ∨ c = ':' ∨ c = ';') ∧
    (∀ request r, ((p.after requests).perform request).reply = .error r →
      (∀ pairs, request ≠ .update pairs) → ((p.after requests).perform request).palette = p.after requests) ∧
    ∀ pairs r, ((p.after requests).perform (.update pairs)).reply = .error r →
      ∃ done name value more, pairs = done ++ (name, value) :: more ∧
        (∀ pair ∈ done, (accepted? pair.1 pair.2).isSome = true) ∧ accepted? name value = none ∧
        ((p.after requests).perform (.update done)).reply = .ok .done ∧
        ((p.after requests).perform (.update pairs)).palette =
          ((p.after requests).perform (.update done)).palette := by
  have hkeeps : Keeps p (Arrivals.none.writeAll entries) :=
    palette_update_of_addEntries h ▸ Keeps.nil.writeAll entries
  have hsound : (p.after requests).Sound := ((edits_ofEntries h).sound .nil).after requests
  refine ⟨(hkeeps.after requests).eq_items, hsound.distinct, fun e he => ?_, fun request r hr hupdate => ?_,
    fun pairs r hr => update_of_error hr⟩
  · obtain ⟨hne, hblank⟩ := words_eq_singleton_iff.1 (hsound.names e he)
    exact ⟨hne, hblank, fun c hc => isParameterChar_iff.1 (hsound.values e he c hc)⟩
  · rw [perform_of_error hr hupdate]
    rfl

/-- The entries of a palette to begin with. -/
def twoNames : List (Datum × Datum) :=
  [(.text "a".toList, .text "1".toList), (.text "b".toList, .text [])]

/-- Requests that overwrite the first name, move the second one behind a third, and take the first one
out. -/
def shuffling : List Request := [
  .set (.text "a".toList) (.text "2".toList), .delete (.text "b".toList),
  .setDefault (.text "c".toList) (.text "3".toList), .set (.text "b".toList) (.text "4".toList),
  .setDefault (.text "b".toList) (.whole 5), .popFirst]

/-- Pairs of which the second one is not accepted. -/
def halfGood : List (Datum × Datum) :=
  [(.text "d".toList, .text "38;5".toList), (.text "e f".toList, .text "1".toList),
    (.text "g".toList, .text "6".toList)]

/-- What a palette holds after `shuffling`, after a request that fails and after an update that fails. -/
theorem entries_after_shuffling : ∃ p, ofEntries twoNames = .ok p ∧
    p.after shuffling = [("c".toList, "3".toList), ("b".toList, "4".toList)] ∧
    ((p.after shuffling).perform (.delete (.text "a".toList))).palette = p.after shuffling ∧
    p.after (shuffling ++ [.update halfGood]) =
      [("c".toList, "3".toList), ("b".toList, "4".toList), ("d".toList, "38;5".toList)] ∧
    ∃ done name value more, halfGood = done ++ (name, value) :: more ∧ accepted? name value = none ∧
      ((p.after shuffling).perform (.update halfGood)).palette =
        ((p.after shuffling).perform (.update done)).palette := by
  have hmade : ofEntries twoNames = .ok [("a".toList, "1".toList), ("b".toList, [])] := rfl
  obtain ⟨hitems, -, -, hfailing, hupdate⟩ := entries_after hmade shuffling
  obtain ⟨hmore, -⟩ := entries_after hmade (shuffling ++ [.update halfGood])
  obtain ⟨done, name, value, more, hpairs, -, hrefused, -, hpalette⟩ := hupdate halfGood _ rfl
  exact ⟨_, hmade, hitems.trans (by decide), hfailing _ _ rfl fun _ => nofun,
    hmore.trans (by decide), done, name, value, more, hpairs, hrefused, hpalette⟩

end Palette
end TermStyle
