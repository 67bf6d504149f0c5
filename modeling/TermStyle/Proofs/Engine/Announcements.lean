/-
# What an engine tells of its palette

An engine tells of every entry that a request to its palette writes or removes: the entry, and that the
cache was cleared.  How many there are can be said beforehand (`Palette.changeCount`):

| request | told of |
| --- | --- |
| `set` | one entry, if the pair is accepted |
| `setDefault` | the same, but nothing if the name is there |
| `update` | one entry for each pair before the first that is not accepted |
| `delete`, `pop` | one entry, if the name is there |
| `popFirst` | one entry, if there is one |
| `clear` | every entry |
| any other | nothing |

A request is carried out as a whole, with one look at the cache at its end.  It could as well be carried
out one change at a time, each with its own two records and its own empty cache (`announce?`): the engine
and the records are the same (`announceAll?_askPalette`), and so they are along any number of requests
(`announceAll?_changesAlong`).
-/

import TermStyle.Engine.Setting
import TermStyle.Proofs.Palette.Replay

namespace TermStyle
namespace Engine

/-- One change of the palette, if it can be carried out, with what is told of it.  The cache is empty
then. -/
def announce? (e : Engine) (change : Palette.Change) : Option (Engine × List LogRecord) :=
  (e.palette.carryOut? change).map fun q => ({ e with palette := q }.clearCache, changeRecords change)

/-- Changes of the palette, each of them announced before the next one. -/
def announceAll? : Engine → List Palette.Change → Option (Engine × List LogRecord)
  | e, [] => some (e, [])
  | e, change :: more =>
    match e.announce? change with
    | none => none
    | some (f, records) => (announceAll? f more).map fun later => (later.1, records ++ later.2)

/-- The engine after requests to its palette. -/
def asked (e : Engine) (requests : List Palette.Request) : Engine :=
  requests.foldl (fun f request => (f.askPalette request).1) e

/-- What is told along requests. -/
def told : Engine → List Palette.Request → List LogRecord
  | _, [] => []
  | e, request :: more => (e.askPalette request).2.1 ++ told (e.askPalette request).1 more

/-- The engine with another palette, and with an empty cache if there was a change. -/
def changed (e : Engine) (q : Palette) (changes : List Palette.Change) : Engine :=
  if changes.isEmpty then { e with palette := q } else { e with palette := q }.clearCache

/-- **Changes that lead from one palette to another can be announced one by one.** -/
theorem announceAll?_of_replay? {e : Engine} {changes : List Palette.Change} {q : Palette}
    (h : e.palette.replay? changes = some q) :
    e.announceAll? changes = some (e.changed q changes, changes.flatMap changeRecords) := by
  induction changes generalizing e with
  | nil =>
    cases h
    rfl
  | cons change more ih =>
    cases hfirst : e.palette.carryOut? change with
    | none =>
      rw [Palette.replay?, List.foldlM_cons, hfirst] at h
      cases h
    | some p =>
      rw [Palette.replay?_cons_of_eq_some hfirst] at h
      have hannounce : e.announce? change = some ({ e with palette := p }.clearCache, changeRecords change) := by
        rw [announce?, hfirst]
        rfl
      have hlater := ih (e := { e with palette := p }.clearCache) h
      -- The cache is empty after the first change, whether others follow or not.
      have hcleared : ({ e with palette := p }.clearCache).changed q more = e.changed q (change :: more) := by
        cases more <;> rfl
      simp only [announceAll?, hannounce, hlater, hcleared, Option.map_some, List.flatMap_cons]

/-- **A request is its changes, announced one by one.** -/
theorem announceAll?_askPalette (e : Engine) (request : Palette.Request) :
    e.announceAll? (e.palette.perform request).changes =
      some ((e.askPalette request).1, (e.askPalette request).2.1) :=
  announceAll?_of_replay? (e.palette.retold_perform request)

theorem palette_askPalette (e : Engine) (request : Palette.Request) :
    (e.askPalette request).1.palette = (e.palette.perform request).palette := by
  simp only [askPalette]
  split <;> rfl

theorem announceAll?_append {e f : Engine} {changes : List Palette.Change} {records : List LogRecord}
    (h : e.announceAll? changes = some (f, records)) (more : List Palette.Change) :
    e.announceAll? (changes ++ more) =
      (f.announceAll? more).map fun later => (later.1, records ++ later.2) := by
  induction changes generalizing e records with
  | nil =>
    cases h
    simp
  | cons change rest ih =>
    rw [announceAll?] at h
    rw [List.cons_append, announceAll?]
    cases hfirst : e.announce? change with
    | none =>
      rw [hfirst] at h
      cases h
    | some step =>
      obtain ⟨d, first⟩ := step
      rw [hfirst] at h
      obtain ⟨⟨f', later⟩, hlater, heq⟩ := Option.map_eq_some_iff.1 h
      cases heq
      simp only [ih hlater, Option.map_map, Function.comp_def, List.append_assoc]

/-- **Requests are their changes, announced one by one.** -/
theorem announceAll?_changesAlong (e : Engine) (requests : List Palette.Request) :
    e.announceAll? (e.palette.changesAlong requests) = some (e.asked requests, e.told requests) := by
  induction requests generalizing e with
  | nil => rfl
  | cons request more ih =>
    rw [Palette.changesAlong, announceAll?_append (e.announceAll?_askPalette request), ← palette_askPalette,
      ih]
    rfl

theorem told_eq (e : Engine) (requests : List Palette.Request) :
    e.told requests = (e.palette.changesAlong requests).flatMap changeRecords := by
  have hone := e.announceAll?_changesAlong requests
  rw [announceAll?_of_replay? (e.palette.replay?_changesAlong requests)] at hone
  exact (congrArg Prod.snd (Option.some.inj hone)).symm

/-- What is told of changes says as many times that the cache was cleared. -/
theorem count_cacheCleared (changes : List Palette.Change) :
    (changes.flatMap changeRecords).count .cacheCleared = changes.length := by
  induction changes with
  | nil => rfl
  | cons change more ih =>
    rw [List.flatMap_cons, List.count_append, ih, List.length_cons, Nat.add_comm]
    rfl

/-- **What is told of a change** names the entry first, and then says that the cache was cleared. -/
theorem messages_changeRecords (change : Palette.Change) :
    ∃ done, (changeRecords change).map LogRecord.message =
      ["palette ".toList ++ Text.quoted change.name ++ done, "escape cache cleared".toList] := by
  cases change with
  | set name value =>
    refine ⟨" set to ".toList ++ Text.quoted value, ?_⟩
    rw [← List.append_assoc]
    rfl
  | removed name => exact ⟨" removed".toList, rfl⟩

/-- A request that changes no entry leaves the engine as it was and tells nothing. -/
theorem askPalette_of_changeCount_eq_zero {e : Engine} {request : Palette.Request}
    (h : e.palette.changeCount request = 0) :
    (e.askPalette request).1 = e ∧ (e.askPalette request).2.1 = [] := by
  rw [← Palette.length_changes, List.length_eq_zero_iff] at h
  have hone := e.announceAll?_askPalette request
  rw [h, announceAll?] at hone
  obtain ⟨hsame, hnone⟩ := Prod.mk.inj (Option.some.inj hone)
  exact ⟨hsame.symm, hnone.symm⟩

/-- A request that changes an entry leaves an empty cache. -/
theorem cache_askPalette_of_pos {e : Engine} {request : Palette.Request}
    (h : 0 < e.palette.changeCount request) : (e.askPalette request).1.cache = .new e.cache.limit := by
  rw [← Palette.length_changes, List.length_pos_iff, ← List.isEmpty_eq_false_iff] at h
  simp only [askPalette, h]
  rfl

/-- **Every change of a palette is announced exactly once.**  Along any requests there are as many changes
as entries that are written or removed, and the engine and what it tells are those of the changes carried
out one by one: each is followed by a record that names the entry, by one that says that the cache was
cleared, and by an empty cache.  This is so for every single request: if it changes no entry, the engine
stays as it was; otherwise entries and counts of the cache are gone.  A request that fails changes no entry,
and an update that fails changes one for each pair before the first that is not accepted. -/
theorem announced_along (e : Engine) (requests : List Palette.Request) :
    (e.palette.changesAlong requests).length = e.palette.changeTotal requests ∧
    e.announceAll? (e.palette.changesAlong requests) = some (e.asked requests, e.told requests) ∧
    e.told requests = (e.palette.changesAlong requests).flatMap changeRecords ∧
    (e.told requests).count .cacheCleared = e.palette.changeTotal requests ∧
    (∀ change ∈ e.palette.changesAlong requests, ∃ done, (changeRecords change).map LogRecord.message =
      ["palette ".toList ++ Text.quoted change.name ++ done, "escape cache cleared".toList]) ∧
    ∀ request, let f := e.asked requests
      (f.palette.changeCount request = 0 → (f.askPalette request).1 = f ∧ (f.askPalette request).2.1 = []) ∧
      (0 < f.palette.changeCount request → (f.askPalette request).1.cache.entries = [] ∧
        (f.askPalette request).1.cache.hits = 0 ∧ (f.askPalette request).1.cache.misses = 0) ∧
      (∀ r, (f.askPalette request).2.2 = .error r → (∀ pairs, request ≠ .update pairs) →
        f.palette.changeCount request = 0) ∧
      ∀ pairs r, request = .update pairs → (f.askPalette request).2.2 = .error r →
        ∃ done name value more, pairs = done ++ (name, value) :: more ∧
          (∀ pair ∈ done, (Palette.accepted? pair.1 pair.2).isSome = true) ∧
          Palette.accepted? name value = none ∧ f.palette.changeCount request = done.length := by
  have hlength := e.palette.length_changesAlong requests
  refine ⟨hlength, e.announceAll?_changesAlong requests, e.told_eq requests, ?_,
    fun change _ => messages_changeRecords change, fun request => ⟨askPalette_of_changeCount_eq_zero,
      fun hpos => ?_, fun r hr hupdate => Palette.changeCount_of_error hr hupdate, ?_⟩⟩
  · rw [told_eq, count_cacheCleared, hlength]
  · rw [cache_askPalette_of_pos hpos]
    exact ⟨rfl, rfl, rfl⟩
  · rintro pairs r rfl hr
    exact Palette.changeCount_update_of_error hr

/-- An engine with one name, which has been looked up twice. -/
def consulted : Engine :=
  ⟨Config.standard, [("warn".toList, "33".toList)],
    ⟨some 4, [("warn".toList, "\x1b[33m".toList)], 1, 1⟩⟩

/-- A request of each kind that can change nothing, an update that fails half-way, and two names to
clear. -/
def mingled : List Palette.Request := [
  .setDefault (.text "warn".toList) (.text "1".toList), .pop (.text "note".toList) (some .nothing),
  .lookup (.text "warn".toList), .delete (.text "note".toList), .update Palette.halfGood, .clear]

/-- What is told along `mingled`: one entry of the update, and two that are cleared. -/
theorem announced_along_mingled :
    consulted.palette.changesAlong mingled =
      [.set "d".toList "38;5".toList, .removed "warn".toList, .removed "d".toList] ∧
    (consulted.told mingled).count .cacheCleared = 3 ∧
    (consulted.askPalette (.delete (.text "note".toList))).1 = consulted ∧
    (consulted.askPalette (.update Palette.halfGood)).1.cache.entries = [] ∧
    ∃ done name value more, Palette.halfGood = done ++ (name, value) :: more ∧
      Palette.accepted? name value = none ∧ done.length = 1 := by
  obtain ⟨-, -, -, hcount, -, -⟩ := consulted.announced_along mingled
  obtain ⟨-, -, -, -, -, hask⟩ := consulted.announced_along []
  have hone : consulted.palette.changeCount (.update Palette.halfGood) = 1 := by decide
  have hnone := (hask (.delete (.text "note".toList))).2.2.1 _ rfl fun _ => nofun
  obtain ⟨-, hemptied, -, hupdate⟩ := hask (.update Palette.halfGood)
  obtain ⟨done, name, value, more, hpairs, -, hrefused, hdone⟩ := hupdate _ _ rfl rfl
  exact ⟨by decide, hcount.trans (by decide), ((hask _).1 hnone).1,
    (hemptied (hone ▸ Nat.one_pos)).1, done, name, value, more, hpairs, hrefused, hdone.symm.trans hone⟩

end Engine
end TermStyle
