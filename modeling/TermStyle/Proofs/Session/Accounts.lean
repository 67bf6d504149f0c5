/-
# The account of a cache

The counts of a cache say how many lookups there have been since it was cleared last.  What is looked up
and when the cache is cleared can be read off the commands, without a look at the cache:

| command | lookups, while the cache is on | cleared |
| --- | --- | --- |
| `resolve`, `resetSequence` | one | |
| `rawPaint` | one a tag | |
| `paint` | one a tag, one for the reset | |
| `apply` | one for the builder and those of `paint`; without a text, one for the reset | |
| a setting of `enabled` or `cache`, if accepted | | once |
| `setup`, where rendering is disabled | | once |
| a request to the palette | | once an entry written or removed |
| all others, and all to other engines | | |

A drawing that fails has looked up nothing behind the expression that failed.  These are the events of an
engine (`Session.events`), and the counts are what they come to (`hits_add_misses_eq`).  Engines may share a
configuration: then a setting that is changed through one of them clears the cache of that one only.
-/

import TermStyle.Proofs.Engine.Lookups
import TermStyle.Proofs.Palette.Arrivals
import TermStyle.Proofs.Session.Failures
import TermStyle.Proofs.Session.Independence

namespace TermStyle

set_option maxRecDepth 4000

/-- What counts for a cache. -/
inductive CacheEvent
  /-- An expression is looked up. -/
  | lookUp (expression : Text)
  /-- The cache is cleared. -/
  | clear
  deriving DecidableEq, Repr

namespace CacheEvent

/-- How many lookups there have been since the last clearing, one event later. -/
def count (n : Nat) : CacheEvent → Nat
  | .lookUp _ => n + 1
  | .clear => 0

/-- The number of lookups after the last clearing among events, where `n` came before them. -/
def tally (n : Nat) (events : List CacheEvent) : Nat := events.foldl count n

theorem tally_append (n : Nat) (events more : List CacheEvent) :
    tally n (events ++ more) = tally (tally n events) more :=
  List.foldl_append

/-- The events after the last clearing, the latest one first. -/
def sinceClear (events : List CacheEvent) : List CacheEvent := events.reverse.takeWhile (· != .clear)

/-- **The tally is the number of events since the last clearing.** -/
theorem tally_eq_length (events : List CacheEvent) : tally 0 events = (sinceClear events).length := by
  induction events using List.reverseRecOn with
  | nil => rfl
  | append_singleton events last ih =>
    rw [tally_append, ih, sinceClear, sinceClear, List.reverse_append]
    cases last <;> rfl

theorem tally_lookUps (n : Nat) (xs : List Text) : tally n (xs.map .lookUp) = n + xs.length := by
  induction xs generalizing n with
  | nil => rfl
  | cons x xs ih =>
    change tally (n + 1) (xs.map .lookUp) = _
    rw [ih, List.length_cons]
    omega

theorem tally_clears (n : Nat) {times : Nat} (h : times ≠ 0) : tally n (List.replicate times .clear) = 0 := by
  obtain ⟨times, rfl⟩ := Nat.exists_eq_succ_of_ne_zero h
  rw [List.replicate_succ', tally_append]
  rfl

end CacheEvent

namespace ColorTag

/-- Whether a pattern is the standard one. -/
def isStandard : ColorTag → Bool
  | .read p => p == standardPattern
  | .foreign _ | .binary _ => false

theorem isStandard_iff {tag : ColorTag} : tag.isStandard = true ↔ tag = standard := by
  cases tag <;> simp [isStandard, standard]

end ColorTag

namespace Engine

/-- The events of asking for expressions: none while the cache is off. -/
def lookUpEvents (e : Engine) (xs : List Text) : List CacheEvent :=
  if e.config.cache then (e.attempted xs).map .lookUp else []

/-- The events of changing a setting. -/
def settingEvents : Setting → List CacheEvent
  | .enabled d =>
    match Config.checkFlag "enabled" d with
    | .ok _ => [.clear]
    | .error _ => []
  | .cache d =>
    match Config.checkFlag "cache" d with
    | .ok _ => [.clear]
    | .error _ => []
  | .htmlTags _ | .colorTag _ | .resetCommand _ => []

/-- The events of enabling rendering. -/
def setupEvents (e : Engine) : List CacheEvent := if e.config.enabled then [] else [.clear]

/-- The events of a request to the palette: a clearing for each entry that is written or removed. -/
def paletteEvents (e : Engine) (request : Palette.Request) : List CacheEvent :=
  List.replicate (e.palette.changeCount request) .clear

theorem Asks.lookups {e : Engine} {xs : List Text} {d : Drawn} (h : Asks e xs d) :
    d.2.cache.lookups = CacheEvent.tally e.cache.lookups (e.lookUpEvents xs) := by
  rw [h.after, lookups_lookedUp, lookUpEvents]
  split
  · rw [CacheEvent.tally_lookUps]
  · rfl

theorem lookups_set (e : Engine) (setting : Setting) :
    (e.set setting).1.cache.lookups = CacheEvent.tally e.cache.lookups (settingEvents setting) := by
  cases setting with
  | enabled d =>
    simp only [Engine.set, settingEvents]
    cases Config.checkFlag "enabled" d <;> rfl
  | cache d =>
    simp only [Engine.set, settingEvents]
    cases Config.checkFlag "cache" d <;> rfl
  | htmlTags d | colorTag d =>
    simp only [Engine.set, settingEvents]
    split <;> rfl
  | resetCommand d =>
    simp only [Engine.set, settingEvents]
    split
    · rfl
    · split <;> rfl

theorem lookups_setup (e : Engine) :
    e.setup.1.cache.lookups = CacheEvent.tally e.cache.lookups e.setupEvents := by
  unfold setup setupEvents
  split <;> rfl

theorem lookups_askPalette (e : Engine) (request : Palette.Request) :
    (e.askPalette request).1.cache.lookups =
      CacheEvent.tally e.cache.lookups (e.paletteEvents request) := by
  simp only [askPalette, paletteEvents, ← e.palette.length_changes request]
  split
  · rename_i hnone
    rw [List.isEmpty_iff.1 hnone]
    rfl
  · rename_i hsome
    rw [CacheEvent.tally_clears _ fun hzero => hsome (List.isEmpty_iff.2 (List.length_eq_zero_iff.1 hzero))]
    rfl

end Engine

namespace Session

/-- The events of drawing a text, if there is one to draw. -/
def drawEvents (e : Engine) (expressions : Text → List Text) : Except Fault Text → List CacheEvent
  | .ok t => e.lookUpEvents (expressions t)
  | .error _ => []

/-- The events of an engine when something is asked of it. -/
def requestEvents (s : Session) (e : Engine) : Request → List CacheEvent
  | .resolve expression => drawEvents e (fun x => [x]) (s.expression e expression)
  | .paint parts => drawEvents e (fun t => e.inlineTags t ++ [e.config.resetCommand]) (s.joined e parts)
  | .rawPaint parts => drawEvents e e.inlineTags (s.joined e parts)
  | .resetSequence => e.lookUpEvents [e.config.resetCommand]
  | .setup => e.setupEvents
  | .set setting => Engine.settingEvents setting
  | .palette request => e.paletteEvents request
  | .noPaint _ | .shown | .get _ | .config | .style _ _ => []

/-- The events of the engine of a number in a command: those of what is asked of it, or drawn by a builder
of its own. -/
def commandEvents (s : Session) (number : Nat) : Command → List CacheEvent
  | .ask name request =>
    match s.engine name with
    | .ok (asked, e) => if asked = number then s.requestEvents e request else []
    | .error _ => []
  | .apply name parts =>
    match s.builder name with
    | .ok (owner, b) =>
      match s.engineAt? owner with
      | some e => if owner = number then drawEvents e (e.styledTags b.expression) (s.joined e parts) else []
      | none => []
    | .error _ => []
  | .create _ _ | .chain _ _ _ | .showBuilder _ | .getBuilder _ => []

/-- The events of the engine of a number in commands that are carried out one after another. -/
def events (number : Nat) : Session → List Command → List CacheEvent
  | _, [] => []
  | s, c :: more => s.commandEvents number c ++ events number (s.execute c).session more

/-- Whether the engine of a number, if there is one, has the standard tags. -/
def hasStandardTag (s : Session) (number : Nat) : Bool :=
  (s.engineAt? number).all fun e => e.config.colorTag.isStandard

theorem standard_of_hasStandardTag {s : Session} {number : Nat} {e : Engine}
    (h : s.hasStandardTag number = true) (he : s.engineAt? number = some e) :
    e.config.colorTag = ColorTag.standard := by
  rw [hasStandardTag, he, Option.all_some] at h
  exact ColorTag.isStandard_iff.1 h

/-- The number of lookups that the cache of an engine has counted; none, if there is no such engine. -/
def lookupsAt (s : Session) (number : Nat) : Nat :=
  ((s.holdings[number]?).map fun held => held.cache.lookups).getD 0

theorem lookupsAt_of_engineAt? {s : Session} {number : Nat} {e : Engine} (h : s.engineAt? number = some e) :
    s.lookupsAt number = e.cache.lookups := by
  obtain ⟨config, hheld, -⟩ := engineAt?_eq_some_iff.1 h
  rw [lookupsAt, hheld]
  rfl

theorem lookupsAt_store {s : Session} {asked : Nat} {e : Engine} (h : s.engineAt? asked = some e) (f : Engine)
    (number : Nat) :
    (s.store asked f).lookupsAt number = if asked = number then f.cache.lookups else s.lookupsAt number := by
  obtain ⟨config, hheld, -⟩ := engineAt?_eq_some_iff.1 h
  rw [store_eq hheld]
  split
  · rename_i hsame
    subst hsame
    simp only [lookupsAt, List.getElem?_set_self (List.getElem?_eq_some_iff.1 hheld).1, Option.map_some,
      Option.getD_some]
  · rename_i hother
    simp only [lookupsAt, List.getElem?_set_ne hother]

/-- What a session becomes in which the engine of a number counts some events, and no other engine
counts any. -/
def Counts (s : Session) (asked : Nat) (events : List CacheEvent) (u : Session) : Prop :=
  ∀ number, u.lookupsAt number =
    CacheEvent.tally (s.lookupsAt number) (if asked = number then events else [])

theorem counts_same {s u : Session} (h : u.holdings = s.holdings) (asked : Nat) : s.Counts asked [] u := by
  intro number
  rw [ite_self, lookupsAt, h]
  rfl

section Engine

variable {s : Session} {asked : Nat} {e : Engine} (h : s.engineAt? asked = some e)
include h

theorem counts_store {f : Engine} {events : List CacheEvent}
    (hf : f.cache.lookups = CacheEvent.tally e.cache.lookups events) :
    s.Counts asked events (s.store asked f) := by
  intro number
  rw [lookupsAt_store h f number]
  split
  · rename_i hsame
    rw [← hsame, lookupsAt_of_engineAt? h, hf]
  · rfl

/-- A drawing counts what it asks for, and it counts for its own engine alone. -/
theorem lookupsAt_drawn {number : Nat} {d : Engine.Drawn} {xs : List Text}
    (hd : asked = number → Engine.Asks e xs d) :
    (s.drawn asked d).session.lookupsAt number =
      CacheEvent.tally (s.lookupsAt number) (if asked = number then e.lookUpEvents xs else []) := by
  have hstored : (s.drawn asked d).session = s.store asked d.2 := by
    obtain ⟨answer, f⟩ := d
    cases answer <;> rfl
  rw [hstored, lookupsAt_store h]
  split
  · rename_i hown
    rw [← hown, lookupsAt_of_engineAt? h, (hd hown).lookups]
  · rfl

/-- **What is asked of an engine is counted by this engine alone,** if it can search texts for its tags. -/
theorem lookupsAt_serve (he : e.Coherent) {number : Nat}
    (hreads : asked = number → e.config.colorTag.readsText = true) (request : Request) :
    (s.serve asked e request).session.lookupsAt number =
      CacheEvent.tally (s.lookupsAt number) (if asked = number then s.requestEvents e request else []) := by
  cases request with
  | resolve x =>
    simp only [serve, requestEvents]
    cases s.expression e x with
    | error fault => exact counts_same rfl asked number
    | ok x => exact lookupsAt_drawn h fun _ => Engine.asks_resolve he x
  | paint parts =>
    simp only [serve, requestEvents]
    cases s.joined e parts with
    | error fault => exact counts_same rfl asked number
    | ok t => exact lookupsAt_drawn h fun hown => Engine.asks_paint he (hreads hown) t
  | rawPaint parts =>
    simp only [serve, requestEvents]
    cases s.joined e parts with
    | error fault => exact counts_same rfl asked number
    | ok t => exact lookupsAt_drawn h fun hown => Engine.asks_rawPaint he (hreads hown) t
  | resetSequence => exact lookupsAt_drawn h fun _ => Engine.asks_resetSequence he
  | setup => exact counts_store h e.lookups_setup number
  | set setting => exact counts_store h (e.lookups_set setting) number
  | palette request => exact counts_store h (e.lookups_askPalette request) number
  | noPaint parts =>
    simp only [serve]
    split <;> exact counts_same rfl asked number
  | style name keywords =>
    simp only [serve]
    split <;> exact counts_same rfl asked number
  | shown | get | config => exact counts_same rfl asked number

end Engine

theorem lookupsAt_of_made {s u : Session} {held : Holding} (hheld : held.cache.lookups = 0)
    (h : u.holdings = s.holdings ++ [held]) (number : Nat) : u.lookupsAt number = s.lookupsAt number := by
  rw [lookupsAt, lookupsAt, h]
  rcases Nat.lt_trichotomy number s.holdings.length with hlt | rfl | hgt
  · rw [List.getElem?_append_left hlt]
  · rw [List.getElem?_concat_length, List.getElem?_eq_none (Nat.le_refl _)]
    exact hheld
  · rw [List.getElem?_eq_none (Nat.le_of_lt hgt), List.getElem?_eq_none]
    rw [List.length_append, List.length_singleton]
    exact hgt

/-- An engine that is made has counted nothing. -/
theorem lookupsAt_create (s : Session) (name : Text) (origin : Origin) (number : Nat) :
    (s.create name origin).session.lookupsAt number = s.lookupsAt number := by
  have hnew : ∀ {config e}, Engine.new config = .ok e → e.cache.lookups = 0 := by
    intro config e hmade
    rw [(Engine.new_cases hmade).2.2]
    rfl
  cases origin with
  | settings settings =>
    simp only [create]
    split
    · rfl
    · split
      · rfl
      · rename_i hmade
        exact lookupsAt_of_made (hnew hmade) rfl number
  | shared other =>
    simp only [create]
    split
    · rfl
    · split
      · rfl
      · rfl
      · rename_i hmade
        exact lookupsAt_of_made (hnew hmade) rfl number

/-- A builder that is applied counts for its engine alone. -/
theorem lookupsAt_apply {s : Session} (hs : s.Reachable) {number : Nat}
    (htag : s.hasStandardTag number = true) (name : Text) (parts : List Argument) :
    (s.execute (.apply name parts)).session.lookupsAt number =
      CacheEvent.tally (s.lookupsAt number) (s.commandEvents number (.apply name parts)) := by
  simp only [execute, commandEvents]
  rcases s.builder name with fault | ⟨owner, b⟩
  · rfl
  dsimp only
  cases he : s.engineAt? owner with
  | none => rfl
  | some e =>
    dsimp only
    cases s.joined e parts with
    | error fault => exact counts_same rfl owner number
    | ok t =>
      have hreach : e.Reachable := ⟨s, owner, hs, he⟩
      -- What another engine looks up is not counted here, whatever its tags are.
      refine lookupsAt_drawn he fun hown => ?_
      subst hown
      exact hreach.asks_paintStyled (standard_of_hasStandardTag htag he) b.expression t

/-- **A command adds its events to the account.** -/
theorem lookupsAt_execute {s : Session} (hs : s.Reachable) {number : Nat}
    (htag : s.hasStandardTag number = true) (c : Command) :
    (s.execute c).session.lookupsAt number =
      CacheEvent.tally (s.lookupsAt number) (s.commandEvents number c) := by
  cases c with
  | create name origin => exact lookupsAt_create s name origin number
  | ask name request =>
    simp only [execute, commandEvents]
    cases hfound : s.engine name with
    | error fault => rfl
    | ok found =>
      obtain ⟨asked, e⟩ := found
      have he := engineAt?_of_engine hfound
      have hreach : e.Reachable := ⟨s, asked, hs, he⟩
      refine lookupsAt_serve he hreach.coherent (fun hown => ?_) request
      subst hown
      rw [standard_of_hasStandardTag htag he, ColorTag.readsText_standard]
  | apply name parts => exact lookupsAt_apply hs htag name parts
  | chain source steps name =>
    simp only [execute]
    split
    · rfl
    · split <;> rfl
  | showBuilder name =>
    simp only [execute]
    split <;> rfl
  | getBuilder name =>
    simp only [execute]
    split <;> rfl

/-- **Commands add their events to the account,** one after another. -/
theorem lookupsAt_after {s : Session} (hs : s.Reachable) {number : Nat}
    (htag : s.hasStandardTag number = true) (commands : List Command)
    (hrun : ∀ outcome ∈ s.run commands, outcome.session.hasStandardTag number = true) :
    (s.after commands).lookupsAt number =
      CacheEvent.tally (s.lookupsAt number) (events number s commands) := by
  induction commands generalizing s with
  | nil => rfl
  | cons c more ih =>
    have hmore := ih (hs.execute c) (hrun _ (List.mem_cons_self ..))
      fun outcome ho => hrun outcome (List.mem_cons_of_mem _ ho)
    rw [lookupsAt_execute hs htag] at hmore
    rw [events, CacheEvent.tally_append]
    exact hmore

/-- **The counts of a cache are the lookups since it was cleared last.**  Commands are carried out one after
another, beginning without engines, and an engine has the standard tags all the time.  Then hits and misses
of its cache together are as many as the lookups of this engine after the last of its clearings. -/
theorem hits_add_misses_eq {commands : List Command} {number : Nat} {e : Engine}
    (he : (empty.after commands).engineAt? number = some e)
    (htag : ∀ outcome ∈ empty.run commands, outcome.session.hasStandardTag number = true) :
    e.cache.hits + e.cache.misses = (CacheEvent.sinceClear (events number empty commands)).length := by
  have haccount := lookupsAt_after .empty rfl commands htag
  rw [lookupsAt_of_engineAt? he] at haccount
  rw [← CacheEvent.tally_eq_length]
  exact haccount

/-- An update that ends at its third pair, tags that end at the second one, settings that do not clear, and a
builder with a text and without. -/
def bookkeeping : List Command :=
  let a := "a".toList
  let plain := fun t : String => Argument.datum (.text t.toList)
  [.create a (.settings { enabled := some (.flag true) }),
    .ask a (.paint [plain "${bold}x"]),
    .ask a (.palette (.update [(.text "x".toList, .text "1".toList), (.text "y".toList, .text "2".toList),
      (.text "no name".toList, .text "3".toList)])),
    .ask a (.rawPaint [plain "${x}${none}${y}"]),
    .ask a (.set (.resetCommand (.text "x".toList))),
    .ask a (.set (.cache (.text "off".toList))),
    .ask a (.noPaint [plain "${bold}x"]),
    .ask a (.style "b".toList [.text "bold".toList]),
    .apply "b".toList [plain "t${y}"],
    .apply "b".toList []]

/-- What is counted in the end are the lookups behind the update, the one that fails included. -/
theorem hits_add_misses_bookkeeping : ∃ e, (empty.after bookkeeping).engineAt? 0 = some e ∧
    (e.cache.hits, e.cache.misses) = (2, 4) ∧
    e.cache.hits + e.cache.misses = (CacheEvent.sinceClear (events 0 empty bookkeeping)).length ∧
    CacheEvent.sinceClear (events 0 empty bookkeeping) =
      ["x", "x", "y", "bold", "none", "x"].map fun x => .lookUp x.toList := by
  have htag : (empty.run bookkeeping).all (fun outcome => outcome.session.hasStandardTag 0) = true := by
    decide
  have hcounts : ((empty.after bookkeeping).engineAt? 0).map (fun e => (e.cache.hits, e.cache.misses)) =
      some (2, 4) := by
    decide
  obtain ⟨e, he, hcounts⟩ := Option.map_eq_some_iff.1 hcounts
  exact ⟨e, he, hcounts, hits_add_misses_eq he (List.all_eq_true.1 htag), by decide⟩

end Session
end TermStyle
