/-
# What configurations are like

Configurations are kept apart from the engines, and several engines may draw by one.  A configuration
comes in when settings are accepted, and it changes when an engine that draws by it takes a step: by one
of them, for all of them.  A command that is refused does neither.

So what is true of accepted settings, and stays true when an engine takes a step, is true of every
configuration in every session that can be reached (`Session.Reachable.config_induction`), and of the one
that an engine draws by, whoever has changed it (`Engine.Reachable.config_induction`).

The tag pattern is checked at both places, and a pattern without groups is refused.  So the pattern of
an engine that can be reached has a group (`Engine.Reachable.groups_pos`).
-/

import TermStyle.Proofs.Session.Reachable

namespace TermStyle

/-- What is accepted for a tag has a group. -/
theorem ColorTag.groups_pos_of_accept {g : ColorTag.Given} {tag : ColorTag}
    (h : ColorTag.accept g = .ok tag) : 0 < tag.groups := by
  have hgroup : ∀ {given : ColorTag}, ColorTag.withGroup given = .ok tag → 0 < tag.groups := by
    intro given hgiven
    unfold ColorTag.withGroup at hgiven
    split at hgiven
    · cases hgiven
    · rename_i hsome
      cases hgiven
      exact Nat.pos_of_ne_zero hsome
  unfold ColorTag.accept at h
  split at h
  · exact hgroup h
  · split at h
    · cases h
    · exact hgroup h
  · cases h

namespace Config

theorem groups_pos_of_checkColorTag {g : ColorTag.Given} {tag : ColorTag}
    (h : checkColorTag g = .ok tag) : 0 < tag.groups := by
  unfold checkColorTag at h
  split at h
  · rename_i haccept
    cases h
    exact ColorTag.groups_pos_of_accept haccept
  · cases h

theorem bind_eq_ok_iff {ε α β : Type} {x : Except ε α} {f : α → Except ε β} {b : β} :
    x >>= f = .ok b ↔ ∃ a, x = .ok a ∧ f a = .ok b := by
  cases x <;> simp [bind, Except.bind]

/-- What is accepted for a setting passes its check, or is the default where nothing is given. -/
theorem given_cases {α β : Type} {check : α → Except Refusal β} {default : β} {value : Option α} {b : β}
    (h : given check default value = .ok b) : b = default ∨ ∃ a, check a = .ok b := by
  cases value with
  | none => exact .inl (Except.ok.inj h).symm
  | some a => exact .inr ⟨a, h⟩

/-- **The tag pattern of accepted settings has a group,** the standard one included. -/
theorem groups_pos_of_ofSettings {settings : Settings} {config : Config}
    (h : ofSettings settings = .ok config) : 0 < config.colorTag.groups := by
  unfold ofSettings at h
  split at h
  · obtain ⟨_, hunknown, -⟩ := bind_eq_ok_iff.1 h
    cases hunknown
  · simp only [bind_eq_ok_iff] at h
    obtain ⟨_, -, _, -, _, -, _, -, _, -, tag, htag, hconfig⟩ := h
    have hsame : config.colorTag = tag := by rw [← Except.ok.inj hconfig]
    rw [hsame]
    rcases given_cases htag with rfl | ⟨g, hg⟩
    · decide
    · exact groups_pos_of_checkColorTag hg

end Config

namespace Engine

/-- **A step keeps a tag pattern with a group:** where it sets another one, that is checked. -/
theorem Step.groups_pos {e f : Engine} (h : Step e f) (he : 0 < e.config.colorTag.groups) :
    0 < f.config.colorTag.groups := by
  cases h with
  | draw hl => exact hl.sameButCache.1 ▸ he
  | set setting =>
    rcases e.set_cases setting with ⟨r, hset⟩ | ⟨f, log, hchanges, hset⟩
    · rw [hset]
      exact he
    · rw [hset]
      cases hchanges with
      | colorTag haccept => exact ColorTag.groups_pos_of_accept haccept
      | enabled | htmlTags | cache | resetCommand => exact he
  | setup =>
    unfold Engine.setup
    split <;> exact he
  | askPalette request =>
    simp only [Engine.askPalette]
    split <;> exact he

end Engine

namespace Session

theorem mem_configs_store {s : Session} {number : Nat} {f : Engine} {config : Config}
    (h : config ∈ (s.store number f).configs) : config ∈ s.configs ∨ config = f.config := by
  unfold store at h
  split at h
  · exact .inl h
  · exact List.mem_or_eq_of_mem_set h

theorem mem_configs_create {s : Session} {name : Text} {origin : Origin} {config : Config}
    (h : config ∈ (s.create name origin).session.configs) :
    config ∈ s.configs ∨ ∃ settings, Config.ofSettings settings = .ok config := by
  cases origin with
  | settings settings =>
    simp only [create] at h
    split at h
    · exact .inl h
    · rename_i made hmade
      split at h
      · exact .inl h
      · rcases List.mem_append.1 h with hold | hnew
        · exact .inl hold
        · exact .inr ⟨settings, List.mem_singleton.1 hnew ▸ hmade⟩
  | shared other =>
    simp only [create] at h
    split at h
    · exact .inl h
    · split at h <;> exact .inl h

section Induction

variable {P : Config → Prop}
  (made : ∀ {settings config}, Config.ofSettings settings = .ok config → P config)
  (step : ∀ {e f}, Engine.Step e f → P e.config → P f.config)
include made step

omit made in
/-- What steps keep, moving on keeps of all configurations. -/
theorem Moves.forall_configs {s u : Session} (h : Moves s u) (hs : ∀ config ∈ s.configs, P config) :
    ∀ config ∈ u.configs, P config := by
  intro config hconfig
  cases h with
  | same configs _ => exact hs config (configs ▸ hconfig)
  | moved he hstep =>
    obtain ⟨_, -, hat⟩ := engineAt?_eq_some_iff.1 he
    rcases mem_configs_store hconfig with hold | rfl
    · exact hs config hold
    · exact step hstep (hs _ (List.mem_of_getElem? hat))

/-- What holds of accepted settings, and is kept by steps, holds of all configurations after a command. -/
theorem forall_configs_execute {s : Session} (hs : ∀ config ∈ s.configs, P config) (c : Command) :
    ∀ config ∈ (s.execute c).session.configs, P config := by
  cases c with
  | create name origin =>
    intro config hconfig
    rcases mem_configs_create hconfig with hold | ⟨settings, hsettings⟩
    · exact hs config hold
    · exact made hsettings
  | ask | chain | apply | showBuilder | getBuilder =>
    refine (moves_execute s fun name origin hcreate => ?_).forall_configs step hs
    cases hcreate

/-- **An invariant of configurations holds in every session that can be reached:** it holds of accepted
settings, and steps keep it. -/
theorem Reachable.config_induction {s : Session} (h : Reachable s) : ∀ config ∈ s.configs, P config := by
  induction h with
  | empty => exact fun _ hconfig => absurd hconfig List.not_mem_nil
  | execute _ c ih => exact forall_configs_execute made step ih c

end Induction

end Session

/-- **An invariant of configurations holds of the one that an engine draws by,** if the engine can be
reached. -/
theorem Engine.Reachable.config_induction {P : Config → Prop}
    (made : ∀ {settings config}, Config.ofSettings settings = .ok config → P config)
    (step : ∀ {e f}, Engine.Step e f → P e.config → P f.config) {e : Engine} (h : e.Reachable) :
    P e.config := by
  obtain ⟨s, number, hs, he⟩ := h
  obtain ⟨_, -, hat⟩ := Session.engineAt?_eq_some_iff.1 he
  exact hs.config_induction made step e.config (List.mem_of_getElem? hat)

/-- **The tag pattern of every engine that can be reached has a group.** -/
theorem Engine.Reachable.groups_pos {e : Engine} (h : e.Reachable) : 0 < e.config.colorTag.groups :=
  h.config_induction (P := fun config => 0 < config.colorTag.groups) Config.groups_pos_of_ofSettings
    Step.groups_pos

end TermStyle
