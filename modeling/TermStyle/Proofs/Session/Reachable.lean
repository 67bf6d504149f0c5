/-
# What can become of engines

A session changes by one command after another.  Whatever the command, what becomes of the
engines is one of three things (`Next`, `next_execute`):

| command | engines |
| --- | --- |
| `create` | one more, with a new palette and a new cache |
| `ask`, `apply` | one of them takes a step of its own |
| any other, and any that is refused | as they were |

Where no engine is made, it is one of the last two (`moves_execute`).

A step of an engine (`Engine.Step`) looks expressions up (`Engine.LookUps`), changes a setting,
enables rendering or asks the palette.  Apart from looking up, it leaves palette and cache as they
were, or it clears the cache (`Engine.Step.cases`).

So what is true of the palette and the cache of a new engine, and stays true when an engine takes
a step, is true of every engine in every session that can be reached (`Reachable.induction`).
Configurations are left out of it, since engines may share one.
-/

import TermStyle.Session.Command

namespace TermStyle

namespace Engine

/-- What one request to an engine, or to a builder of its own, does to it. -/
inductive Step : Engine → Engine → Prop
  /-- It draws. -/
  | draw {e f : Engine} (h : LookUps e f) : Step e f
  /-- A setting is changed, if its value is accepted. -/
  | set (e : Engine) (setting : Setting) : Step e (e.set setting).1
  /-- Rendering is enabled. -/
  | setup (e : Engine) : Step e e.setup.1
  /-- The palette is asked. -/
  | askPalette (e : Engine) (request : Palette.Request) : Step e (e.askPalette request).1

/-- A setting leaves the palette alone, and leaves the cache as it was or clears it. -/
theorem set_keeps (e : Engine) (setting : Setting) :
    (e.set setting).1.palette = e.palette ∧
      ((e.set setting).1.cache = e.cache ∨ (e.set setting).1.cache = e.cache.clear) := by
  rcases e.set_cases setting with ⟨r, hset⟩ | ⟨f, log, hchanges, hset⟩
  · rw [hset]
    exact ⟨rfl, .inl rfl⟩
  · rw [hset]
    cases hchanges with
    | enabled | cache => exact ⟨rfl, .inr rfl⟩
    | htmlTags | colorTag | resetCommand => exact ⟨rfl, .inl rfl⟩

theorem setup_cases (e : Engine) :
    e.setup.1.palette = e.palette ∧ (e.setup.1.cache = e.cache ∨ e.setup.1.cache = e.cache.clear) := by
  unfold Engine.setup
  split
  · exact ⟨rfl, .inl rfl⟩
  · exact ⟨rfl, .inr rfl⟩

/-- A request to the palette clears the cache, unless it leaves the palette as it was. -/
theorem askPalette_cases (e : Engine) (request : Palette.Request) :
    (e.askPalette request).1.palette = (e.palette.perform request).palette ∧
      ((e.palette.perform request).palette = e.palette ∧ (e.askPalette request).1.cache = e.cache ∨
        (e.askPalette request).1.cache = e.cache.clear) := by
  simp only [Engine.askPalette]
  split
  · rename_i hnone
    exact ⟨rfl, .inl ⟨Palette.palette_perform (List.isEmpty_iff.1 hnone), rfl⟩⟩
  · exact ⟨rfl, .inr rfl⟩

/-- **What a step does to palette and cache:** it looks expressions up, or leaves both as they
were, or clears the cache, and only where it does so can the palette be another. -/
theorem Step.cases {e f : Engine} (h : Step e f) :
    LookUps e f ∨ (f.palette = e.palette ∧ f.cache = e.cache) ∨
      ((f.palette = e.palette ∨ ∃ request, f.palette = (e.palette.perform request).palette) ∧
        f.cache = e.cache.clear) := by
  cases h with
  | draw hl => exact .inl hl
  | set setting =>
    obtain ⟨hpalette, hcache | hcache⟩ := e.set_keeps setting
    · exact .inr (.inl ⟨hpalette, hcache⟩)
    · exact .inr (.inr ⟨.inl hpalette, hcache⟩)
  | setup =>
    obtain ⟨hpalette, hcache | hcache⟩ := e.setup_cases
    · exact .inr (.inl ⟨hpalette, hcache⟩)
    · exact .inr (.inr ⟨.inl hpalette, hcache⟩)
  | askPalette request =>
    obtain ⟨hpalette, ⟨hsame, hcache⟩ | hcache⟩ := e.askPalette_cases request
    · exact .inr (.inl ⟨hpalette.trans hsame, hcache⟩)
    · exact .inr (.inr ⟨.inr ⟨request, hpalette⟩, hcache⟩)

/-- A new engine has the palette of its configuration and an empty cache. -/
theorem new_cases {config : Config} {e : Engine} (h : Engine.new config = .ok e) :
    e.config = config ∧ Palette.ofEntries config.entries = .ok e.palette ∧
      e.cache = .new (some config.cacheSize) := by
  unfold Engine.new Cache.make at h
  split at h
  · cases h
  · rename_i hmake
    split at h
    · cases h
    · rename_i hentries
      cases h
      split at hmake
      · cases hmake
      · cases hmake
        exact ⟨rfl, hentries, rfl⟩

end Engine

namespace Session

/-- What can become of the configurations and the engines of a session by one command. -/
inductive Next (s : Session) : Session → Prop
  /-- They stay as they were. -/
  | same {u : Session} (configs : u.configs = s.configs) (holdings : u.holdings = s.holdings) :
      Next s u
  /-- One engine takes a step. -/
  | moved {number : Nat} {e f : Engine} (at_number : s.engineAt? number = some e)
      (step : Engine.Step e f) : Next s (s.store number f)
  /-- An engine is made, with a configuration of its own or with one that is there. -/
  | created {u : Session} {config : Config} {e : Engine} {number : Nat}
      (made : Engine.new config = .ok e)
      (configs : u.configs = s.configs ∨ u.configs = s.configs ++ [config])
      (holdings : u.holdings = s.holdings ++ [⟨number, e.palette, e.cache⟩]) : Next s u

/-- What can become of them where no engine is made. -/
inductive Moves (s : Session) : Session → Prop
  /-- They stay as they were. -/
  | same {u : Session} (configs : u.configs = s.configs) (holdings : u.holdings = s.holdings) :
      Moves s u
  /-- One engine takes a step. -/
  | moved {number : Nat} {e f : Engine} (at_number : s.engineAt? number = some e)
      (step : Engine.Step e f) : Moves s (s.store number f)

theorem Moves.next {s u : Session} (h : Moves s u) : Next s u := by
  cases h with
  | same configs holdings => exact .same configs holdings
  | moved he step => exact .moved he step

/-- An engine that has a name is there. -/
theorem engineAt?_of_engine {s : Session} {name : Text} {number : Nat} {e : Engine}
    (h : s.engine name = .ok (number, e)) : s.engineAt? number = some e := by
  unfold engine at h
  split at h
  · cases h
  · split at h
    · cases h
    · rename_i heq
      cases h
      exact heq

theorem moves_drawn {s : Session} {number : Nat} {e : Engine} (he : s.engineAt? number = some e)
    {d : Except Engine.Refusal Text × Engine} (h : Engine.LookUps e d.2) :
    Moves s (s.drawn number d).session := by
  obtain ⟨answer, f⟩ := d
  cases answer with
  | ok t => exact .moved he (.draw h)
  | error u => exact .moved he (.draw h)

theorem next_create (s : Session) (name : Text) (origin : Origin) :
    Next s (s.create name origin).session := by
  cases origin with
  | settings settings =>
    simp only [create]
    split
    · exact .same rfl rfl
    · split
      · exact .same rfl rfl
      · rename_i hnew
        exact .created hnew (.inr rfl) rfl
  | shared other =>
    simp only [create]
    split
    · exact .same rfl rfl
    · split
      · exact .same rfl rfl
      · exact .same rfl rfl
      · rename_i hnew
        exact .created hnew (.inl rfl) rfl

theorem moves_serve {s : Session} {number : Nat} {e : Engine} (he : s.engineAt? number = some e)
    (request : Request) : Moves s (s.serve number e request).session := by
  cases request with
  | resolve x =>
    simp only [serve]
    split
    · exact .same rfl rfl
    · refine moves_drawn he ?_
      exact e.lookUps_resolve _
  | paint parts =>
    simp only [serve]
    split
    · exact .same rfl rfl
    · refine moves_drawn he ?_
      exact e.lookUps_paint _
  | rawPaint parts =>
    simp only [serve]
    split
    · exact .same rfl rfl
    · refine moves_drawn he ?_
      exact e.lookUps_rawPaint _
  | noPaint parts =>
    simp only [serve]
    split <;> exact .same rfl rfl
  | resetSequence => exact moves_drawn he (e.lookUps_resolve _)
  | setup => exact .moved he (.setup e)
  | set setting => exact .moved he (.set e setting)
  | palette request => exact .moved he (.askPalette e request)
  | style name keywords =>
    simp only [serve]
    split <;> exact .same rfl rfl
  | shown | get | config => exact .same rfl rfl

/-- **A command that makes no engine moves one of them, or leaves all as they were.** -/
theorem moves_execute (s : Session) {c : Command} (hc : ∀ name origin, c ≠ .create name origin) :
    Moves s (s.execute c).session := by
  cases c with
  | create name origin => exact absurd rfl (hc name origin)
  | ask name request =>
    simp only [execute]
    split
    · exact .same rfl rfl
    · rename_i h
      exact moves_serve (engineAt?_of_engine h) request
  | chain source steps name =>
    simp only [execute]
    split
    · exact .same rfl rfl
    · split <;> exact .same rfl rfl
  | apply name parts =>
    simp only [execute]
    split
    · exact .same rfl rfl
    · split
      · exact .same rfl rfl
      · rename_i e he
        split
        · exact .same rfl rfl
        · refine moves_drawn he ?_
          exact e.lookUps_paintStyled _ _
  | showBuilder name =>
    simp only [execute]
    split <;> exact .same rfl rfl
  | getBuilder name =>
    simp only [execute]
    split <;> exact .same rfl rfl

/-- **A command makes an engine, moves one of them, or leaves all as they were.** -/
theorem next_execute (s : Session) (c : Command) : Next s (s.execute c).session := by
  cases c with
  | create name origin => exact next_create s name origin
  | ask | chain | apply | showBuilder | getBuilder =>
    refine (moves_execute s fun _ _ h => ?_).next
    cases h

/-- The sessions that commands lead to, from the one without engines. -/
inductive Reachable : Session → Prop
  /-- The session without engines. -/
  | empty : Reachable empty
  /-- The session after one more command. -/
  | execute {s : Session} (h : Reachable s) (c : Command) : Reachable (s.execute c).session

variable {P Q : Palette → Cache Text Text → Prop}

/-- What holds of a new engine, of one that is left alone and of one after a step, holds of all
engines after a command. -/
theorem Next.forall_holdings (keep : ∀ {palette cache}, P palette cache → Q palette cache)
    (made : ∀ {config e}, Engine.new config = .ok e → Q e.palette e.cache)
    (step : ∀ {e f}, Engine.Step e f → P e.palette e.cache → Q f.palette f.cache)
    {s u : Session} (h : Next s u) (hs : ∀ held ∈ s.holdings, P held.palette held.cache) :
    ∀ held ∈ u.holdings, Q held.palette held.cache := by
  cases h with
  | same _ holdings => exact fun held hheld => keep (hs held (holdings ▸ hheld))
  | @moved number e f he hstep =>
    intro held hheld
    unfold store at hheld
    unfold engineAt? at he
    split at hheld <;> rename_i hat
    · exact keep (hs held hheld)
    · rename_i old
      have hmoved : Q f.palette f.cache := by
        rw [hat] at he
        split at he
        · cases he
        · rename_i heq
          cases heq
          split at he
          · cases he
          · cases he
            exact step hstep (hs old (List.mem_of_getElem? hat))
      rcases List.mem_or_eq_of_mem_set hheld with hold | rfl
      · exact keep (hs held hold)
      · exact hmoved
  | created hmade _ holdings =>
    intro held hheld
    rw [holdings, List.mem_append, List.mem_singleton] at hheld
    rcases hheld with hold | rfl
    · exact keep (hs held hold)
    · exact made hmade

/-- **An invariant of engines holds in every session that can be reached:** it holds of what a new
engine has of its own, and steps keep it. -/
theorem Reachable.induction (made : ∀ {config e}, Engine.new config = .ok e → P e.palette e.cache)
    (step : ∀ {e f}, Engine.Step e f → P e.palette e.cache → P f.palette f.cache)
    {s : Session} (h : Reachable s) : ∀ held ∈ s.holdings, P held.palette held.cache := by
  induction h with
  | empty => exact fun _ hheld => absurd hheld List.not_mem_nil
  | execute _ c ih => exact (next_execute _ c).forall_holdings id made step ih

/-- What a run passes through can be reached. -/
theorem Reachable.run {s : Session} (h : Reachable s) (commands : List Command) :
    ∀ outcome ∈ s.run commands, Reachable outcome.session := by
  induction commands generalizing s with
  | nil => exact fun _ ho => absurd ho List.not_mem_nil
  | cons c more ih =>
    intro outcome ho
    rcases List.mem_cons.1 ho with rfl | ho
    · exact h.execute c
    · exact ih (h.execute c) outcome ho

/-- **An engine of a session is put together** of the holding of its number and the configuration that
this draws by. -/
theorem engineAt?_eq_some_iff {s : Session} {number : Nat} {e : Engine} :
    s.engineAt? number = some e ↔
      ∃ config, s.holdings[number]? = some ⟨config, e.palette, e.cache⟩ ∧
        s.configs[config]? = some e.config := by
  unfold engineAt?
  constructor
  · intro h
    split at h
    · cases h
    · rename_i held hheld
      split at h
      · cases h
      · rename_i hconfig
        cases h
        exact ⟨held.config, hheld, hconfig⟩
  · rintro ⟨config, hheld, hconfig⟩
    simp only [hheld, hconfig]

/-- An engine of a session has its palette and its cache from the holding of its number. -/
theorem mem_holdings_of_engineAt? {s : Session} {number : Nat} {e : Engine}
    (h : s.engineAt? number = some e) :
    ∃ held ∈ s.holdings, held.palette = e.palette ∧ held.cache = e.cache := by
  obtain ⟨_, hheld, -⟩ := engineAt?_eq_some_iff.1 h
  exact ⟨_, List.mem_of_getElem? hheld, rfl, rfl⟩

end Session

/-- Whether an engine is in some session that can be reached. -/
def Engine.Reachable (e : Engine) : Prop :=
  ∃ s number, Session.Reachable s ∧ s.engineAt? number = some e

/-- An engine that is made with settings of its own can be reached. -/
theorem Engine.Reachable.made (settings : Config.Settings) {config : Config} {e : Engine}
    (hconfig : Config.ofSettings settings = .ok config) (hnew : Engine.new config = .ok e) :
    e.Reachable := by
  refine ⟨_, 0, .execute .empty (.create [] (.settings settings)), ?_⟩
  have hpart : (⟨config, e.palette, e.cache⟩ : Engine) = e := by
    rw [← (Engine.new_cases hnew).1]
  simp only [Session.execute, Session.create, hconfig, hnew, Session.addEngine, Session.engineAt?,
    Session.empty, List.nil_append, List.length_nil, List.getElem?_cons_zero, hpart]

/-- **An invariant of engines holds of every engine that can be reached.** -/
theorem Engine.Reachable.induction {P : Palette → Cache Text Text → Prop}
    (made : ∀ {config e}, Engine.new config = .ok e → P e.palette e.cache)
    (step : ∀ {e f}, Engine.Step e f → P e.palette e.cache → P f.palette f.cache)
    {e : Engine} (h : e.Reachable) : P e.palette e.cache := by
  obtain ⟨s, number, hs, he⟩ := h
  obtain ⟨held, hheld, hpalette, hcache⟩ := Session.mem_holdings_of_engineAt? he
  rw [← hpalette, ← hcache]
  exact hs.induction made step held hheld

end TermStyle
