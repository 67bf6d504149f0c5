/-
# Engines side by side

Engines of one session share its names and, where they are made so, configurations.  Engines that draw
by configurations of their own (`Session.Apart`) share nothing else, so what one of them does should not
depend on what is asked of another.

This compares two runs: of steps of several engines in any order, and of the steps of one of them alone.
The sessions differ on the way, for names can stand for other things, and where fewer engines were made
an engine has another number.  They agree in the engine itself, in the names that stand for it and in the
builders of its own (`Session.Mirrors`).  A step that mentions nothing else (`Session.isStepOf`) does the
same in both (`Parallel`, `Mirrors.parallel_execute`), and this one inversion says what becomes of two
sessions that agree:

| step of | taken in | they |
| --- | --- | --- |
| the engine | both | answer alike and agree again (`Mirrors.own`) |
| an engine apart from it | one | agree still (`Mirrors.other`) |
| whichever | either | keep apart what was (`Apart.parallel`) |

So an engine does among others what it does alone (`run_independent`).  To begin with, a session agrees
with itself (`Mirrors.refl`), with the one before another engine was made (`Mirrors.create`), and in a new
engine with the session that has no other (`mirrors_alone`).
-/

import TermStyle.Proofs.Session.Reachable

namespace TermStyle

set_option maxRecDepth 4000
namespace Session

/-- Whether a name stands for no engine but that of a number. -/
def namesOnly (s : Session) (number : Nat) (name : Text) : Bool :=
  (s.engines.get? name).all (· == number)

/-- Whether a name stands for no builder but those of the engine of a number. -/
def bindsOnly (s : Session) (number : Nat) (name : Text) : Bool :=
  (s.builders.get? name).all (·.1 == number)

/-- Whether an argument mentions no builder of another engine. -/
def mentionsOnly (s : Session) (number : Nat) : Argument → Bool
  | .builder name => s.bindsOnly number name
  | .datum _ | .palette => true

/-- The arguments of a request. -/
def Request.arguments : Request → List Argument
  | .resolve expression => [expression]
  | .paint parts | .rawPaint parts | .noPaint parts => parts
  | .resetSequence | .setup | .shown | .set _ | .get _ | .config | .palette _ | .style _ _ => []

/-- Whether a command is a step of an engine: it asks that engine or works with a builder of it, and
mentions no other. -/
def isStepOf (s : Session) (number : Nat) : Command → Bool
  | .create _ _ => false
  | .ask name request => s.namesOnly number name && request.arguments.all (s.mentionsOnly number)
  | .chain source _ _ => s.bindsOnly number source
  | .apply name parts => s.bindsOnly number name && parts.all (s.mentionsOnly number)
  | .showBuilder name | .getBuilder name => s.bindsOnly number name

/-- The number of the configuration that the engine of a number draws by. -/
def configOf? (s : Session) (number : Nat) : Option Nat := (s.holdings[number]?).map Holding.config

/-- Whether two engines are there and draw by different configurations. -/
def Apart (s : Session) (n m : Nat) : Prop :=
  ∃ c d, s.configOf? n = some c ∧ s.configOf? m = some d ∧ c ≠ d

/-- Whether another session has an engine of this one, under a number of its own, with the names that
stand for it and the builders that are bound to it. -/
structure Mirrors (s u : Session) (n k : Nat) : Prop where
  /-- The engine is the same. -/
  engine : u.engineAt? k = s.engineAt? n
  /-- A name that stands for it, or for nothing, does so there. -/
  engines : ∀ name, s.namesOnly n name = true →
    u.engines.get? name = (s.engines.get? name).map fun _ => k
  /-- A name that stands for a builder of it, or for nothing, does so there. -/
  builders : ∀ name, s.bindsOnly n name = true →
    u.builders.get? name = (s.builders.get? name).map fun found => (k, found.2)

/-- What two sessions do alike with engines of theirs. -/
inductive Parallel (s u : Session) (n k : Nat) : Outcome → Outcome → Prop
  /-- Both answer the same and stay as they were. -/
  | same (answer : Except Fault Answer) : Parallel s u n k (s.reply answer) (u.reply answer)
  /-- The two engines become the same one. -/
  | stored (f : Engine) (log : List LogRecord) (answer : Except Fault Answer) :
      Parallel s u n k ⟨s.store n f, log, answer⟩ ⟨u.store k f, log, answer⟩
  /-- The same builder is kept under the same name, bound to the one and to the other. -/
  | bound (name : Text) (b : Builder) (answer : Except Fault Answer) :
      Parallel s u n k ({ s with builders := s.builders.put name (n, b) }.reply answer)
        ({ u with builders := u.builders.put name (k, b) }.reply answer)

theorem Mirrors.refl (s : Session) (n : Nat) : s.Mirrors s n n := by
  refine ⟨rfl, fun name hname => ?_, fun name hname => ?_⟩
  · unfold namesOnly at hname
    cases hfound : s.engines.get? name with
    | none => rfl
    | some number =>
      rw [hfound] at hname
      exact congrArg some (eq_of_beq hname)
  · unfold bindsOnly at hname
    cases hfound : s.builders.get? name with
    | none => rfl
    | some found =>
      rw [hfound] at hname
      exact congrArg (fun number => some (number, found.2)) (eq_of_beq hname)

section Alike

variable {s u : Session} {n k : Nat} (h : s.Mirrors u n k)
include h

/-- A name finds the engine on both sides, or nothing. -/
theorem Mirrors.engine_cases {name : Text} (hname : s.namesOnly n name = true) :
    (∃ f, s.engine name = .error f ∧ u.engine name = .error f) ∨
      ∃ e, s.engine name = .ok (n, e) ∧ u.engine name = .ok (k, e) := by
  have hthere := h.engines name hname
  unfold namesOnly at hname
  unfold Session.engine
  rw [hthere]
  cases hfound : s.engines.get? name with
  | none => exact .inl ⟨_, rfl, rfl⟩
  | some number =>
    rw [hfound] at hname
    obtain rfl : number = n := eq_of_beq hname
    simp only [Option.map_some, h.engine]
    cases s.engineAt? number with
    | none => exact .inl ⟨_, rfl, rfl⟩
    | some e => exact .inr ⟨e, rfl, rfl⟩

/-- A name finds the same builder on both sides, or none. -/
theorem Mirrors.builder_cases {name : Text} (hname : s.bindsOnly n name = true) :
    (∃ f, s.builder name = .error f ∧ u.builder name = .error f) ∨
      ∃ b, s.builder name = .ok (n, b) ∧ u.builder name = .ok (k, b) := by
  have hthere := h.builders name hname
  unfold bindsOnly at hname
  unfold builder
  rw [hthere]
  cases hfound : s.builders.get? name with
  | none => exact .inl ⟨_, rfl, rfl⟩
  | some found =>
    obtain ⟨number, b⟩ := found
    rw [hfound] at hname
    obtain rfl : number = n := eq_of_beq hname
    exact .inr ⟨b, rfl, rfl⟩

theorem Mirrors.value_eq (e : Engine) {a : Argument} (ha : s.mentionsOnly n a = true) :
    u.value e a = s.value e a := by
  cases a with
  | datum | palette => rfl
  | builder name =>
    rcases h.builder_cases ha with ⟨f, hs, hu⟩ | ⟨b, hs, hu⟩ <;> rw [value, value, hs, hu]

theorem Mirrors.joined_eq (e : Engine) {parts : List Argument}
    (hparts : parts.all (s.mentionsOnly n) = true) : u.joined e parts = s.joined e parts :=
  joined_congr fun a ha => h.value_eq e (List.all_eq_true.1 hparts a ha)

omit h in
theorem parallel_drawn (s u : Session) (n k : Nat) (d : Except Engine.Refusal Text × Engine) :
    Parallel s u n k (s.drawn n d) (u.drawn k d) := by
  obtain ⟨answer, f⟩ := d
  cases answer with
  | ok t => exact .stored f [] _
  | error r => exact .stored f [] _

theorem Mirrors.parallel_serve (e : Engine) {request : Request}
    (harguments : request.arguments.all (s.mentionsOnly n) = true) :
    Parallel s u n k (s.serve n e request) (u.serve k e request) := by
  cases request with
  | resolve x =>
    have hvalue := h.value_eq e (List.all_eq_true.1 harguments x (List.mem_singleton_self x))
    simp only [serve, expression_congr hvalue]
    cases s.expression e x with
    | error f => exact .same _
    | ok d => exact parallel_drawn s u n k _
  | paint parts | rawPaint parts =>
    have hjoined : u.joined e parts = s.joined e parts := h.joined_eq e harguments
    simp only [serve, hjoined]
    cases s.joined e parts with
    | error f => exact .same _
    | ok t => exact parallel_drawn s u n k _
  | noPaint parts =>
    have hjoined : u.joined e parts = s.joined e parts := h.joined_eq e harguments
    simp only [serve, hjoined]
    cases s.joined e parts with
    | error f => exact .same _
    | ok t => exact .same _
  | resetSequence => exact parallel_drawn s u n k _
  | setup => exact .stored _ _ _
  | set setting => exact .stored _ _ _
  | palette request => exact .stored _ _ _
  | style name keywords =>
    simp only [serve]
    cases Builder.empty.add keywords with
    | error r => exact .same _
    | ok b => exact .bound name b _
  | shown | get | config => exact .same _

/-- **A step of an engine does the same in two sessions** that agree in this engine. -/
theorem Mirrors.parallel_execute {c : Command} (hc : s.isStepOf n c = true) :
    Parallel s u n k (s.execute c) (u.execute c) := by
  cases c with
  | create name origin => cases hc
  | ask name request =>
    obtain ⟨hname, harguments⟩ := Bool.and_eq_true_iff.1 hc
    rcases h.engine_cases hname with ⟨f, hs, hu⟩ | ⟨e, hs, hu⟩
    · simp only [execute, hs, hu]
      exact .same _
    · simp only [execute, hs, hu]
      exact h.parallel_serve e harguments
  | chain source steps name =>
    rcases h.builder_cases hc with ⟨f, hs, hu⟩ | ⟨b, hs, hu⟩
    · simp only [execute, hs, hu]
      exact .same _
    · simp only [execute, hs, hu]
      cases b.steps steps with
      | error r => exact .same _
      | ok next => exact .bound name next _
  | apply name parts =>
    obtain ⟨hname, hparts⟩ := Bool.and_eq_true_iff.1 hc
    rcases h.builder_cases hname with ⟨f, hs, hu⟩ | ⟨b, hs, hu⟩
    · simp only [execute, hs, hu]
      exact .same _
    · simp only [execute, hs, hu, h.engine]
      cases s.engineAt? n with
      | none => exact .same _
      | some e =>
        simp only [h.joined_eq e hparts]
        cases s.joined e parts with
        | error f => exact .same _
        | ok t => exact parallel_drawn s u n k _
  | showBuilder name | getBuilder name =>
    rcases h.builder_cases hc with ⟨f, hs, hu⟩ | ⟨b, hs, hu⟩ <;> simp only [execute, hs, hu] <;>
      exact .same _

end Alike

@[simp] theorem engines_store (s : Session) (number : Nat) (f : Engine) :
    (s.store number f).engines = s.engines := by
  unfold store
  split <;> rfl

@[simp] theorem builders_store (s : Session) (number : Nat) (f : Engine) :
    (s.store number f).builders = s.builders := by
  unfold store
  split <;> rfl

@[simp] theorem configOf?_store (s : Session) (number : Nat) (f : Engine) (other : Nat) :
    (s.store number f).configOf? other = s.configOf? other := by
  unfold store configOf?
  split
  · rfl
  · rename_i held hheld
    rw [List.getElem?_set]
    split
    · rename_i hsame
      subst hsame
      rw [hheld, if_pos (List.getElem?_eq_some_iff.1 hheld).1]
      rfl
    · rfl

/-- What is stored under a number is the engine of this number, if there is one. -/
theorem engineAt?_store_self (s : Session) (number : Nat) (f : Engine) :
    (s.store number f).engineAt? number = (s.engineAt? number).map fun _ => f := by
  unfold store
  split
  · rename_i hnone
    simp only [engineAt?, hnone, Option.map_none]
  · rename_i held hheld
    have hlength := (List.getElem?_eq_some_iff.1 hheld).1
    simp only [engineAt?, hheld, List.getElem?_set_self hlength, List.getElem?_set_self']
    cases s.configs[held.config]? <;> rfl

theorem Apart.ne {s : Session} {n m : Nat} (h : s.Apart n m) : n ≠ m := by
  obtain ⟨c, d, hn, hm, hne⟩ := h
  rintro rfl
  exact hne (Option.some.inj (hn.symm.trans hm))

/-- **An engine does not change with one that draws by another configuration.** -/
theorem Apart.engineAt?_store {s : Session} {n m : Nat} (h : s.Apart n m) (f : Engine) :
    (s.store m f).engineAt? n = s.engineAt? n := by
  have hnumber := h.ne
  obtain ⟨c, d, hn, hm, hne⟩ := h
  obtain ⟨held, hheld, rfl⟩ := Option.map_eq_some_iff.1 hn
  obtain ⟨other, hother, rfl⟩ := Option.map_eq_some_iff.1 hm
  simp only [store, hother, engineAt?, List.getElem?_set_ne hnumber.symm, hheld,
    List.getElem?_set_ne hne.symm]

/-- No engine comes to draw by another configuration. -/
theorem Apart.parallel {s : Session} {n m number : Nat} (h : s.Apart n m) {o : Outcome}
    (hp : Parallel s s number number o o) : o.session.Apart n m := by
  cases hp with
  | same | bound => exact h
  | stored f log answer => simpa only [Apart, configOf?_store] using h

/-- Sessions in which only engines have changed agree in an engine if it is the same. -/
theorem Mirrors.of_engine {s u s' u' : Session} {n k : Nat} (h : s.Mirrors u n k)
    (hs : s'.engines = s.engines ∧ s'.builders = s.builders)
    (hu : u'.engines = u.engines ∧ u'.builders = u.builders)
    (hengine : u'.engineAt? k = s'.engineAt? n) : s'.Mirrors u' n k := by
  refine ⟨hengine, fun name hname => ?_, fun name hname => ?_⟩
  · rw [namesOnly, hs.1] at hname
    rw [hu.1, hs.1, h.engines name hname]
  · rw [bindsOnly, hs.2] at hname
    rw [hu.2, hs.2, h.builders name hname]

/-- **What is done alike is answered alike,** and the sessions after it agree in the engine again. -/
theorem Mirrors.own {s u : Session} {n k : Nat} (h : s.Mirrors u n k) {o o' : Outcome}
    (hp : Parallel s u n k o o') :
    o'.answer = o.answer ∧ o'.log = o.log ∧ o.session.Mirrors o'.session n k := by
  cases hp with
  | same answer => exact ⟨rfl, rfl, h⟩
  | stored f log answer =>
    refine ⟨rfl, rfl, h.of_engine (by simp) (by simp) ?_⟩
    rw [engineAt?_store_self, engineAt?_store_self, h.engine]
  | bound name b answer =>
    refine ⟨rfl, rfl, h.engine, h.engines, fun other hother => ?_⟩
    by_cases hsame : name = other
    · subst hsame
      simp only [reply, OrderedMap.get?_put_self, Option.map_some]
    · simp only [reply, bindsOnly, OrderedMap.get?_put_of_ne _ hsame] at hother ⊢
      exact h.builders other hother

/-- **What another engine does makes no difference,** if it draws by another configuration. -/
theorem Mirrors.other {s u : Session} {n k m : Nat} (h : s.Mirrors u n k) (hapart : s.Apart n m)
    {o : Outcome} (hp : Parallel s s m m o o) : o.session.Mirrors u n k := by
  cases hp with
  | same answer => exact h
  | stored f log answer =>
    refine h.of_engine (by simp) ⟨rfl, rfl⟩ ?_
    rw [hapart.engineAt?_store, h.engine]
  | bound name b answer =>
    refine ⟨h.engine, h.engines, fun other hother => ?_⟩
    by_cases hsame : name = other
    · subst hsame
      simp only [reply, bindsOnly, OrderedMap.get?_put_self] at hother
      exact absurd (eq_of_beq hother).symm hapart.ne
    · simp only [reply, bindsOnly, OrderedMap.get?_put_of_ne _ hsame] at hother ⊢
      exact h.builders other hother

/-- Whether commands are steps of engines with these numbers, each at its moment. -/
def interleaves (s : Session) (numbers : List Nat) : List (Nat × Command) → Bool
  | [] => true
  | (number, c) :: more =>
    numbers.contains number && s.isStepOf number c && interleaves (s.execute c).session numbers more

/-- What can be seen of an engine after a command: the answer, what was told, and the engine, with its
configuration, its palette and its cache. -/
abbrev Sight := Except Fault Answer × List LogRecord × Option Engine

/-- What is seen of the engine of a number. -/
def Outcome.seen (o : Outcome) (number : Nat) : Sight := (o.answer, o.log, o.session.engineAt? number)

/-- What is seen of an engine after each step of its own, when all steps are taken. -/
def seenOf (s : Session) (number : Nat) : List (Nat × Command) → List Sight
  | [] => []
  | (who, c) :: more =>
    let outcome := s.execute c
    if who = number then outcome.seen number :: seenOf outcome.session number more
    else seenOf outcome.session number more

/-- The commands among steps that are those of one engine. -/
def commandsOf (number : Nat) (steps : List (Nat × Command)) : List Command :=
  (steps.filter fun step => step.1 = number).map Prod.snd

/-- The session after commands. -/
def after (s : Session) (commands : List Command) : Session :=
  commands.foldl (fun t c => (t.execute c).session) s

/-- One more engine makes no difference to an engine that is there. -/
theorem Mirrors.of_made {s u s' : Session} {n k : Nat} (h : s.Mirrors u n k) {e : Engine}
    (he : s.engineAt? n = some e) {name : Text} {held : Holding} (hconfigs : s.configs <+: s'.configs)
    (hholdings : s'.holdings = s.holdings ++ [held])
    (hengines : s'.engines = s.engines.put name s.holdings.length) (hbuilders : s'.builders = s.builders) :
    s'.Mirrors u n k := by
  obtain ⟨config, hheld, hconfig⟩ := engineAt?_eq_some_iff.1 he
  have hlength : n < s.holdings.length := (List.getElem?_eq_some_iff.1 hheld).1
  have hthere : s'.engineAt? n = some e := by
    refine engineAt?_eq_some_iff.2 ⟨config, ?_, ?_⟩
    · rw [hholdings, List.getElem?_append_left hlength, hheld]
    · obtain ⟨more, hmore⟩ := hconfigs
      rw [← hmore, List.getElem?_append_left (List.getElem?_eq_some_iff.1 hconfig).1, hconfig]
  refine ⟨by rw [hthere, h.engine, he], fun other hother => ?_, fun other hother => ?_⟩
  · rw [namesOnly, hengines] at hother
    rw [hengines]
    by_cases hsame : name = other
    · subst hsame
      rw [OrderedMap.get?_put_self] at hother
      exact absurd (eq_of_beq hother) (Nat.ne_of_gt hlength)
    · rw [OrderedMap.get?_put_of_ne _ hsame] at hother ⊢
      exact h.engines other hother
  · rw [bindsOnly, hbuilders] at hother
    rw [hbuilders]
    exact h.builders other hother

/-- **To make another engine makes no difference,** whatever it draws by. -/
theorem Mirrors.create {s u : Session} {n k : Nat} (h : s.Mirrors u n k) {e : Engine}
    (he : s.engineAt? n = some e) (name : Text) (origin : Origin) :
    (s.create name origin).session.Mirrors u n k := by
  cases origin with
  | settings settings =>
    simp only [Session.create]
    split
    · exact h
    · split
      · exact h
      · exact h.of_made he (List.prefix_append _ _) rfl rfl rfl
  | shared other =>
    simp only [Session.create]
    split
    · exact h
    · split
      · exact h
      · exact h
      · exact h.of_made he (List.prefix_refl _) rfl rfl rfl

/-- Whether all numbers that names and builders have are those of engines. -/
def Numbered (s : Session) : Prop :=
  (∀ entry ∈ s.engines, entry.2 < s.holdings.length) ∧
    ∀ entry ∈ s.builders, entry.2.1 < s.holdings.length

/-- **An engine that is made among others is the one that is made alone,** with the same settings. -/
theorem mirrors_alone {s : Session} (hs : s.Numbered) (name : Text) {settings : Config.Settings}
    {config : Config} {e : Engine} (hconfig : Config.ofSettings settings = .ok config)
    (hnew : Engine.new config = .ok e) :
    (s.create name (.settings settings)).session.Mirrors (empty.create name (.settings settings)).session
      s.holdings.length 0 := by
  simp only [Session.create, hconfig, hnew]
  refine ⟨?_, fun other hother => ?_, fun other hother => ?_⟩
  · simp [addEngine, engineAt?, empty]
  · simp only [namesOnly, addEngine] at hother ⊢
    by_cases hsame : name = other
    · subst hsame
      rw [OrderedMap.get?_put_self, OrderedMap.get?_put_self]
      rfl
    · rw [OrderedMap.get?_put_of_ne _ hsame] at hother
      rw [OrderedMap.get?_put_of_ne _ hsame, OrderedMap.get?_put_of_ne _ hsame]
      -- No other name can stand for the new engine: its number was none of an engine before.
      cases hfound : s.engines.get? other with
      | none => rfl
      | some number =>
        rw [hfound] at hother
        exact absurd (eq_of_beq hother) (Nat.ne_of_lt (hs.1 _ (OrderedMap.mem_of_get? hfound)))
  · simp only [bindsOnly, addEngine] at hother ⊢
    cases hfound : s.builders.get? other with
    | none => rfl
    | some found =>
      rw [hfound] at hother
      exact absurd (eq_of_beq hother) (Nat.ne_of_lt (hs.2 _ (OrderedMap.mem_of_get? hfound)))

/-- **Engines are independent.**  Steps of two or more engines come in any order, and one of them draws by
a configuration by which none of the others does.  What is seen of it after each of its steps, and what it
is in the end, is what it is in the run without the steps of the others: from the same session, or from
another one that has the engine. -/
theorem run_independent {s u : Session} {numbers : List Nat} {n k : Nat}
    (hapart : ∀ m ∈ numbers, m ≠ n → s.Apart n m) (hmirrors : s.Mirrors u n k)
    {steps : List (Nat × Command)} (hsteps : s.interleaves numbers steps = true) :
    s.seenOf n steps = (u.run (commandsOf n steps)).map (·.seen k) ∧
      (s.after (steps.map Prod.snd)).engineAt? n = (u.after (commandsOf n steps)).engineAt? k := by
  induction steps generalizing s u with
  | nil => exact ⟨rfl, hmirrors.engine.symm⟩
  | cons step more ih =>
    obtain ⟨who, c⟩ := step
    simp only [interleaves, Bool.and_eq_true, List.contains_iff_mem] at hsteps
    obtain ⟨⟨hwho, hc⟩, hmore⟩ := hsteps
    -- At a step of the engine both sessions move on, at any other step the first one alone.
    have hleaves := (Mirrors.refl s who).parallel_execute hc
    have hapart' := fun m hm hne => (hapart m hm hne).parallel hleaves
    by_cases hown : who = n
    · subst hown
      have hcommands : commandsOf who ((who, c) :: more) = c :: commandsOf who more := by
        simp [commandsOf]
      obtain ⟨hanswer, hlog, hmirrors'⟩ := hmirrors.own (hmirrors.parallel_execute hc)
      obtain ⟨hseen, hend⟩ := ih hapart' hmirrors' hmore
      have hfirst : (u.execute c).seen k = (s.execute c).seen who := by
        rw [Outcome.seen, Outcome.seen, hanswer, hlog, hmirrors'.engine]
      rw [hcommands]
      refine ⟨?_, hend⟩
      rw [seenOf, if_pos rfl, run, List.map_cons, hfirst, hseen]
    · have hcommands : commandsOf n ((who, c) :: more) = commandsOf n more := by
        simp [commandsOf, hown]
      rw [hcommands, seenOf, if_neg hown]
      exact ih hapart' (hmirrors.other (hapart who hwho hown) hleaves) hmore

/-- The settings of an engine that renders. -/
def rendering : Config.Settings := { enabled := some (.flag true) }

/-- A session with one engine. -/
def solo : Session := (empty.create "a".toList (.settings {})).session

/-- The session after another engine has been made, with settings of its own. -/
def duo : Session := (solo.create "b".toList (.settings rendering)).session

/-- Steps of the two by turns.  Each has a builder, and only the second knows a name by which both
paint. -/
def duet : List (Nat × Command) := [
  (0, .ask "a".toList .setup),
  (1, .ask "b".toList (.palette (.set (.text "warn".toList) (.text "31".toList)))),
  (0, .ask "a".toList (.style "k".toList [.text "bold".toList])),
  (1, .ask "b".toList (.style "l".toList [.text "warn".toList])),
  (1, .apply "l".toList [.datum (.text "x".toList)]),
  (0, .apply "k".toList [.datum (.text "${warn}x".toList)]),
  (0, .ask "a".toList (.paint [.datum (.text "${dim}".toList), .builder "k".toList, .palette]))]

/-- In `duet` each engine does what it does where the other was never made.  The builder of the first
one fails, for want of the name that the second has. -/
theorem run_independent_duo :
    (duo.seenOf 0 duet = (solo.run (commandsOf 0 duet)).map (·.seen 0) ∧
      (duo.after (duet.map Prod.snd)).engineAt? 0 = (solo.after (commandsOf 0 duet)).engineAt? 0) ∧
    (duo.seenOf 1 duet = ((empty.create "b".toList (.settings rendering)).session.run
        (commandsOf 1 duet)).map (·.seen 0) ∧
      (duo.after (duet.map Prod.snd)).engineAt? 1 =
        ((empty.create "b".toList (.settings rendering)).session.after (commandsOf 1 duet)).engineAt? 0) ∧
    (duo.seenOf 0 duet).map (fun seen => seen.1.toOption.isSome) = [true, true, false, true] := by
  have hconfig : ∀ n ∈ [0, 1], duo.configOf? n = some n := by decide
  have hapart : ∀ n ∈ [0, 1], ∀ m ∈ [0, 1], m ≠ n → duo.Apart n m :=
    fun n hn m hm hne => ⟨n, m, hconfig n hn, hconfig m hm, hne.symm⟩
  have hsteps : duo.interleaves [0, 1] duet = true := by decide
  have hfirst : duo.Mirrors solo 0 0 := (Mirrors.refl solo 0).create rfl _ _
  have hnumbered : solo.Numbered := by constructor <;> decide
  have hsecond : duo.Mirrors (empty.create "b".toList (.settings rendering)).session 1 0 :=
    mirrors_alone hnumbered _ rfl rfl
  exact ⟨run_independent (hapart 0 (by decide)) hfirst hsteps,
    run_independent (hapart 1 (by decide)) hsecond hsteps, by decide⟩

end Session
end TermStyle
