/-
# Caching cannot be seen

The other run is that of a session in which no engine ever keeps a sequence: before each command
every cache is taken away, for one that has no room (`runUncached`).  Both runs differ in what they
do, but in nothing that they answer or tell: after each command, sessions, logs and answers are
the same but for the caches (`uncached_run`).

A command sees a cache only where it draws, and a coherent engine draws what it would draw without
one (`Engine.Coherent.fst_paint` and the lemmas beside it).  All else is a function of the session
without its caches: one equation for each operation of a session says so, and `uncached_execute`
puts them together.
-/

import TermStyle.Proofs.Engine.Coherence

namespace TermStyle

set_option maxRecDepth 4000

/-- The engine with a cache that has no room. -/
def Engine.uncached (e : Engine) : Engine := { e with cache := .new (some 0) }

/-- What an engine has of its own, with a cache that has no room. -/
def Holding.uncached (h : Holding) : Holding := { h with cache := .new (some 0) }

namespace Cache

variable {κ β ε : Type}

/-- Whether a cache has no room, and so no entries. -/
def Roomless (c : Cache κ β) : Prop := c.limit = some 0 ∧ c.entries = []

theorem Roomless.get [BEq κ] {c : Cache κ β} (h : c.Roomless) (compute : κ → Except ε β) (key : κ) :
    (c.get compute key).2.Roomless := by
  obtain ⟨hlimit, hentries⟩ := h
  have hfind : c.find? key = none := by rw [find?, hentries]; rfl
  cases hk : compute key with
  | error u => simp [Cache.get, hfind, hk, Roomless, hlimit, hentries]
  | ok value => simp [Cache.get, hfind, hk, Roomless, hlimit, kept, capacity]

end Cache

namespace Engine

theorem LookUps.roomless {e f : Engine} (h : LookUps e f) (he : e.cache.Roomless) :
    f.cache.Roomless := by
  induction h with
  | none => exact he
  | more x _ ih =>
    refine ih ?_
    unfold lookUp
    split
    · exact Cache.Roomless.get he _ x
    · exact he

/-- An engine whose cache has no room keeps nothing in a step. -/
theorem Step.entries_eq_nil {e f : Engine} (h : Step e f) (he : e.cache.Roomless) :
    f.cache.entries = [] := by
  rcases h.cases with hl | ⟨_, hcache⟩ | ⟨_, hcache⟩
  · exact (hl.roomless he).2
  · exact hcache ▸ he.2
  · exact hcache ▸ rfl

theorem coherent_uncached (e : Engine) : e.uncached.Coherent := Cache.coherent_new _ _

theorem sameButCache_uncached (e : Engine) : SameButCache e e.uncached := ⟨rfl, rfl⟩

theorem LookUps.uncached {e f : Engine} (h : LookUps e f) : f.uncached = e.uncached := by
  obtain ⟨hconfig, hpalette⟩ := h.sameButCache
  simp only [Engine.uncached, hconfig, hpalette]

/-- What is drawn, with the engine after it without its cache. -/
def bare (d : Except Engine.Refusal Text × Engine) :
    Except Engine.Refusal Text × Engine :=
  (d.1, d.2.uncached)

/-- Two ways to draw are the same but for the cache where they show the same. -/
theorem bare_eq {e : Engine} {d k : Except Engine.Refusal Text × Engine}
    (hd : LookUps e.uncached d.2) (hk : LookUps e k.2) (h : d.1 = k.1) : bare d = bare k := by
  rw [bare, bare, hd.uncached, hk.uncached, h]
  rfl

variable {e : Engine} (h : e.Coherent)
include h

theorem Coherent.bare_resolve (x : Text) : bare (e.uncached.resolve x) = bare (e.resolve x) := by
  refine bare_eq (lookUps_resolve _ x) (lookUps_resolve _ x) ?_
  rw [h.fst_resolve, e.coherent_uncached.fst_resolve]
  exact e.sameButCache_uncached.resolved x

theorem Coherent.bare_rawPaint (t : Text) : bare (e.uncached.rawPaint t) = bare (e.rawPaint t) := by
  refine bare_eq (lookUps_rawPaint _ t) (lookUps_rawPaint _ t) ?_
  rw [h.fst_rawPaint, e.coherent_uncached.fst_rawPaint]
  exact e.sameButCache_uncached.rawPainted t

theorem Coherent.bare_paint (t : Text) : bare (e.uncached.paint t) = bare (e.paint t) := by
  refine bare_eq (lookUps_paint _ t) (lookUps_paint _ t) ?_
  rw [h.fst_paint, e.coherent_uncached.fst_paint]
  exact e.sameButCache_uncached.painted t

theorem Coherent.bare_paintStyled (x t : Text) :
    bare (e.uncached.paintStyled x t) = bare (e.paintStyled x t) := by
  refine bare_eq (lookUps_paintStyled _ x t) (lookUps_paintStyled _ x t) ?_
  rw [h.fst_paintStyled, e.coherent_uncached.fst_paintStyled]
  exact e.sameButCache_uncached.paintedStyled x t

end Engine

namespace Session

/-- The session with caches that have no room. -/
def uncached (s : Session) : Session := { s with holdings := s.holdings.map Holding.uncached }

/-- The outcome with a session without caches. -/
def Outcome.uncached (o : Outcome) : Outcome := { o with session := o.session.uncached }

/-- The outcomes of commands that are carried out one after another, each in a session without
caches. -/
def runUncached (s : Session) : List Command → List Outcome
  | [] => []
  | c :: more =>
    let outcome := s.uncached.execute c
    outcome :: runUncached outcome.session more

theorem uncached_uncached (s : Session) : s.uncached.uncached = s.uncached := by
  simp only [uncached, List.map_map]
  rfl

theorem engineAt?_uncached (s : Session) (number : Nat) :
    s.uncached.engineAt? number = (s.engineAt? number).map Engine.uncached := by
  simp only [engineAt?, uncached, List.getElem?_map]
  cases s.holdings[number]? with
  | none => rfl
  | some held =>
    simp only [Option.map_some, Holding.uncached]
    cases s.configs[held.config]? <;> rfl

theorem engine_uncached (s : Session) (name : Text) :
    s.uncached.engine name = (s.engine name).map fun found => (found.1, found.2.uncached) := by
  unfold engine
  rw [show s.uncached.engines = s.engines from rfl]
  cases s.engines.get? name with
  | none => rfl
  | some number =>
    simp only [engineAt?_uncached]
    cases s.engineAt? number <;> rfl

theorem uncached_store (s : Session) (number : Nat) (e : Engine) :
    (s.store number e).uncached = s.uncached.store number e.uncached := by
  simp only [store, uncached, List.getElem?_map]
  cases s.holdings[number]? with
  | none => rfl
  | some held => simp [Holding.uncached, Engine.uncached, List.map_set]

theorem uncached_addEngine (s : Session) (name : Text) (config : Nat) (e : Engine) :
    (s.addEngine name config e).uncached = s.uncached.addEngine name config e.uncached := by
  simp [addEngine, uncached, Holding.uncached, Engine.uncached]

theorem uncached_drawn (s : Session) (number : Nat)
    (d : Except Engine.Refusal Text × Engine) :
    (s.drawn number d).uncached = s.uncached.drawn number (Engine.bare d) := by
  obtain ⟨shown, e⟩ := d
  cases shown <;> simp [drawn, Outcome.uncached, Engine.bare, uncached_store]

/-- Without caches an argument is the same value. -/
theorem value_uncached (s : Session) (e : Engine) (a : Argument) :
    s.uncached.value e.uncached a = s.value e a := by
  cases a <;> rfl

theorem joined_uncached (s : Session) (e : Engine) (parts : List Argument) :
    s.uncached.joined e.uncached parts = s.joined e parts :=
  joined_congr fun a _ => s.value_uncached e a

theorem uncached_set (e : Engine) (setting : Engine.Setting) :
    (e.uncached.set setting).1.uncached = (e.set setting).1.uncached ∧
      (e.uncached.set setting).2 = (e.set setting).2 := by
  cases setting with
  | enabled d =>
    simp only [Engine.set]
    cases Config.checkFlag "enabled" d <;> exact ⟨rfl, rfl⟩
  | htmlTags d =>
    simp only [Engine.set]
    cases Config.checkFlag "html_tags" d <;> exact ⟨rfl, rfl⟩
  | cache d =>
    simp only [Engine.set]
    cases Config.checkFlag "cache" d <;> exact ⟨rfl, rfl⟩
  | colorTag g =>
    simp only [Engine.set]
    cases Config.checkColorTag g <;> exact ⟨rfl, rfl⟩
  | resetCommand d =>
    simp only [Engine.set, show e.uncached.palette = e.palette from rfl]
    cases Config.checkResetCommand d with
    | error r => exact ⟨rfl, rfl⟩
    | ok t =>
      dsimp only
      cases Expression.resolve e.palette t <;> exact ⟨rfl, rfl⟩

theorem uncached_setup (e : Engine) :
    e.uncached.setup.1.uncached = e.setup.1.uncached ∧ e.uncached.setup.2 = e.setup.2 := by
  unfold Engine.setup
  rw [show e.uncached.config = e.config from rfl]
  split <;> exact ⟨rfl, rfl⟩

theorem uncached_askPalette (e : Engine) (request : Palette.Request) :
    (e.uncached.askPalette request).1.uncached = (e.askPalette request).1.uncached ∧
      (e.uncached.askPalette request).2 = (e.askPalette request).2 := by
  refine ⟨?_, rfl⟩
  simp only [Engine.askPalette, show e.uncached.palette = e.palette from rfl]
  split <;> rfl

theorem uncached_reply (s : Session) (answer : Except Fault Answer) :
    (s.uncached.reply answer).uncached = (s.reply answer).uncached :=
  congrArg (Outcome.mk · [] answer) s.uncached_uncached

/-- Storing engines that are the same but for the cache gives sessions that are the same but for
the caches. -/
theorem uncached_store_congr (s : Session) (number : Nat) {e f : Engine}
    (h : f.uncached = e.uncached) :
    (s.uncached.store number f).uncached = (s.store number e).uncached := by
  rw [uncached_store, uncached_store, uncached_uncached, h]

theorem uncached_drawn_congr (s : Session) (number : Nat)
    {d k : Except Engine.Refusal Text × Engine} (h : Engine.bare k = Engine.bare d) :
    (s.uncached.drawn number k).uncached = (s.drawn number d).uncached := by
  rw [uncached_drawn, uncached_drawn, uncached_uncached, h]

theorem uncached_addEngine_congr (s : Session) (name : Text) (config : Nat) (e : Engine) :
    (s.uncached.addEngine name config e).uncached = (s.addEngine name config e).uncached := by
  rw [uncached_addEngine, uncached_addEngine, uncached_uncached]

theorem uncached_create (s : Session) (name : Text) (origin : Origin) :
    (s.uncached.create name origin).uncached = (s.create name origin).uncached := by
  cases origin with
  | settings settings =>
    simp only [create]
    cases Config.ofSettings settings with
    | error r => exact s.uncached_reply _
    | ok config =>
      dsimp only
      cases Engine.new config with
      | error r => exact s.uncached_reply _
      | ok e =>
        let more := { s with configs := s.configs ++ [config] }
        exact congrArg (Outcome.mk · [] _) (more.uncached_addEngine_congr name s.configs.length e)
  | shared other =>
    simp only [create, engine_uncached]
    cases s.engine other with
    | error f => exact s.uncached_reply _
    | ok found =>
      obtain ⟨number, e⟩ := found
      simp only [Except.map, uncached, List.getElem?_map]
      cases s.holdings[number]? with
      | none => exact s.uncached_reply _
      | some held =>
        rw [show e.uncached.config = e.config from rfl]
        cases Engine.new e.config with
        | error r => exact s.uncached_reply _
        | ok made => exact congrArg (Outcome.mk · [] _) (s.uncached_addEngine_congr name held.config made)

/-- What is made of an engine's answer is the same but for the caches. -/
theorem uncached_serve {s : Session} {e : Engine} (h : e.Coherent) (number : Nat)
    (request : Request) :
    (s.uncached.serve number e.uncached request).uncached = (s.serve number e request).uncached := by
  cases request with
  | resolve x =>
    simp only [serve, expression_congr (s.value_uncached e x)]
    cases s.expression e x with
    | error f => exact s.uncached_reply _
    | ok d => exact s.uncached_drawn_congr number (h.bare_resolve _)
  | paint parts =>
    simp only [serve, joined_uncached]
    cases s.joined e parts with
    | error f => exact s.uncached_reply _
    | ok t => exact s.uncached_drawn_congr number (h.bare_paint t)
  | rawPaint parts =>
    simp only [serve, joined_uncached]
    cases s.joined e parts with
    | error f => exact s.uncached_reply _
    | ok t => exact s.uncached_drawn_congr number (h.bare_rawPaint t)
  | noPaint parts =>
    simp only [serve, joined_uncached]
    cases s.joined e parts with
    | error f => exact s.uncached_reply _
    | ok t => exact s.uncached_reply _
  | resetSequence => exact s.uncached_drawn_congr number (h.bare_resolve _)
  | setup =>
    obtain ⟨hafter, hlog⟩ := uncached_setup e
    simp only [serve, Outcome.uncached, hlog, s.uncached_store_congr number hafter]
  | set setting =>
    obtain ⟨hafter, hrest⟩ := uncached_set e setting
    simp only [serve, Outcome.uncached, hrest, s.uncached_store_congr number hafter]
  | palette request =>
    obtain ⟨hafter, hrest⟩ := uncached_askPalette e request
    simp only [serve, Outcome.uncached, hrest, s.uncached_store_congr number hafter]
  | style name keywords =>
    simp only [serve]
    cases Builder.empty.add keywords with
    | error r => exact s.uncached_reply _
    | ok b =>
      let more := { s with builders := s.builders.put name (number, b) }
      exact more.uncached_reply _
  | shown | get | config => exact s.uncached_reply _

/-- Whether every engine of a session is coherent. -/
def Coherent (s : Session) : Prop := ∀ number e, s.engineAt? number = some e → e.Coherent

theorem Reachable.coherent {s : Session} (h : Reachable s) : s.Coherent :=
  fun number _ he => Engine.Reachable.coherent ⟨s, number, h, he⟩

/-- **Without caches a command comes to the same,** but for the caches. -/
theorem uncached_execute {s : Session} (h : s.Coherent) (c : Command) :
    (s.uncached.execute c).uncached = (s.execute c).uncached := by
  have hbuilder (name : Text) : s.uncached.builder name = s.builder name := rfl
  cases c with
  | create name origin => exact s.uncached_create name origin
  | ask name request =>
    simp only [execute, engine_uncached]
    cases he : s.engine name with
    | error f => exact s.uncached_reply _
    | ok found =>
      obtain ⟨number, e⟩ := found
      exact uncached_serve (h number e (engineAt?_of_engine he)) number request
  | chain source steps name =>
    simp only [execute, hbuilder]
    cases s.builder source with
    | error f => exact s.uncached_reply _
    | ok found =>
      obtain ⟨number, b⟩ := found
      dsimp only
      cases b.steps steps with
      | error r => exact s.uncached_reply _
      | ok next =>
        let more := { s with builders := s.builders.put name (number, next) }
        exact more.uncached_reply _
  | apply name parts =>
    simp only [execute, hbuilder]
    cases s.builder name with
    | error f => exact s.uncached_reply _
    | ok found =>
      obtain ⟨number, b⟩ := found
      simp only [engineAt?_uncached]
      cases he : s.engineAt? number with
      | none => exact s.uncached_reply _
      | some e =>
        simp only [Option.map_some, joined_uncached]
        cases s.joined e parts with
        | error f => exact s.uncached_reply _
        | ok t => exact s.uncached_drawn_congr number ((h number e he).bare_paintStyled _ t)
  | showBuilder name | getBuilder name =>
    simp only [execute, hbuilder]
    cases s.builder name <;> exact s.uncached_reply _

/-- **A run without caches comes to the same,** but for the caches. -/
theorem uncached_run {s u : Session} (h : Reachable s) (hu : u.uncached = s.uncached)
    (commands : List Command) :
    (u.runUncached commands).map Outcome.uncached = (s.run commands).map Outcome.uncached := by
  induction commands generalizing s u with
  | nil => rfl
  | cons c more ih =>
    have hstep : (u.uncached.execute c).uncached = (s.execute c).uncached :=
      hu ▸ uncached_execute h.coherent c
    simp only [runUncached, run, List.map_cons, hstep]
    rw [ih (h.execute c) (congrArg Outcome.session hstep)]

/-- What a command without caches leaves, no engine has kept anything of. -/
theorem runUncached_entries (s : Session) (commands : List Command) :
    ∀ outcome ∈ s.runUncached commands, ∀ held ∈ outcome.session.holdings,
      held.cache.entries = [] := by
  induction commands generalizing s with
  | nil => exact fun _ ho => absurd ho List.not_mem_nil
  | cons c more ih =>
    intro outcome ho
    rcases List.mem_cons.1 ho with rfl | ho
    · refine (next_execute s.uncached c).forall_holdings (P := fun _ cache => cache.Roomless)
        (Q := fun _ cache => cache.entries = []) (fun h => h.2) ?_ Engine.Step.entries_eq_nil ?_
      · intro config e hnew
        rw [(Engine.new_cases hnew).2.2]
        rfl
      · intro held hheld
        obtain ⟨old, -, rfl⟩ := List.mem_map.1 hheld
        exact ⟨rfl, rfl⟩
    · exact ih _ outcome ho

/-- **Caching cannot be seen.**  Whatever the commands, every entry of every cache is the sequence
of its expression under the palette of its engine, as long as it is there; and each command has the
same answer and tells the same as in the run in which no engine ever keeps anything. -/
theorem run_transparent (commands : List Command) :
    (∀ outcome ∈ empty.run commands, ∀ number e, outcome.session.engineAt? number = some e →
      ∀ expression sequence, (expression, sequence) ∈ e.cache.entries →
        ∃ parameters, Expression.resolveParams Attribute.table e.palette expression = .ok parameters ∧
          sequence = Sgr.sequence parameters) ∧
    (∀ outcome ∈ empty.runUncached commands, ∀ number e, outcome.session.engineAt? number = some e →
      e.cache.entries = []) ∧
    (empty.run commands).map (fun o => (o.answer, o.log)) =
      (empty.runUncached commands).map fun o => (o.answer, o.log) := by
  refine ⟨?_, ?_, ?_⟩
  · intro outcome ho number e he expression sequence hmem
    have hcoherent := (Reachable.empty.run commands outcome ho).coherent number e he
    exact Expression.resolve_eq_ok_iff.1 (hcoherent expression sequence hmem)
  · intro outcome ho number e he
    obtain ⟨held, hheld, -, hcache⟩ := mem_holdings_of_engineAt? he
    exact hcache ▸ empty.runUncached_entries commands outcome ho held hheld
  · have h := congrArg (List.map fun o : Outcome => (o.answer, o.log))
      (uncached_run Reachable.empty rfl commands)
    simp only [List.map_map] at h
    exact h.symm

/-- An engine resolves a name of its palette, before and after the name is given another value. -/
def recoloring : List Command :=
  let resolve : Request := .resolve (.datum (.text "warn".toList))
  [.create "a".toList (.settings { entries := [(.text "warn".toList, .text "33".toList)] }),
    .ask "a".toList resolve,
    .ask "a".toList (.palette (.set (.text "warn".toList) (.text "1;4".toList))),
    .ask "a".toList resolve]

/-- After `recoloring` the cache has an entry, and it is that of the present value. -/
theorem run_transparent_recoloring :
    ∃ outcome ∈ empty.run recoloring, ∃ e, outcome.session.engineAt? 0 = some e ∧
      ∃ sequence, ("warn".toList, sequence) ∈ e.cache.entries ∧
        ∃ parameters, Expression.resolveParams Attribute.table e.palette "warn".toList = .ok parameters ∧
          sequence = Sgr.sequence parameters := by
  have hlast : ((empty.run recoloring)[3]?.bind fun o => o.session.engineAt? 0).map
      (fun e => e.cache.entries) = some [("warn".toList, Sgr.escape :: "[1;4m".toList)] := by
    decide
  obtain ⟨e, hat, hentries⟩ := Option.map_eq_some_iff.1 hlast
  obtain ⟨outcome, ho, he⟩ := Option.bind_eq_some_iff.1 hat
  have hmem : ("warn".toList, Sgr.escape :: "[1;4m".toList) ∈ e.cache.entries := by
    rw [hentries]
    exact List.mem_singleton.2 rfl
  have hrun := List.mem_of_getElem? ho
  exact ⟨outcome, hrun, e, he, _, hmem, (run_transparent recoloring).1 outcome hrun 0 e he _ _ hmem⟩

end Session
end TermStyle
