/-
# Changing an engine

Settings are changed one at a time, and the palette by requests.  What an engine keeps in its
cache depends on its palette, so every change of the palette clears it; switching rendering or
the cache itself clears it as well.

| change | told |
| --- | --- |
| `enabled` | cache cleared, rendering enabled or disabled |
| `cache` | cache cleared |
| `html_tags`, `color_tag`, `reset_cmd` | nothing |
| an entry of the palette | the entry, cache cleared |

A change is answered together with the engine after it and what was told.  A setting that is refused
leaves the engine as it was and tells nothing (`set_of_error`).
-/

import TermStyle.Engine.Basic

namespace TermStyle
namespace Engine

/-- A setting with the value that is given for it. -/
inductive Setting
  /-- Whether sequences are emitted. -/
  | enabled (d : Datum)
  /-- Whether markup tags are replaced. -/
  | htmlTags (d : Datum)
  /-- Whether resolved expressions are kept. -/
  | cache (d : Datum)
  /-- The pattern of inline tags. -/
  | colorTag (g : ColorTag.Given)
  /-- The style expression before and after painted text, which must resolve. -/
  | resetCommand (d : Datum)

/-- The engine with rendering switched on or off. -/
def setEnabled (e : Engine) (b : Bool) : Engine × List LogRecord :=
  ({ e.clearCache with config := { e.config with enabled := b } }, [.cacheCleared, .rendering b])

/-- The engine after a setting was asked to be changed, what it tells of the change, and whether the
value was accepted. -/
def set (e : Engine) : Setting → Engine × List LogRecord × Except Refusal Unit
  | .enabled d =>
    match Config.checkFlag "enabled" d with
    | .error r => (e, [], .error (.config r))
    | .ok b =>
      let (after, log) := e.setEnabled b
      (after, log, .ok ())
  | .htmlTags d =>
    match Config.checkFlag "html_tags" d with
    | .error r => (e, [], .error (.config r))
    | .ok b => ({ e with config := { e.config with htmlTags := b } }, [], .ok ())
  | .cache d =>
    match Config.checkFlag "cache" d with
    | .error r => (e, [], .error (.config r))
    | .ok b =>
      ({ e.clearCache with config := { e.config with cache := b } }, [.cacheCleared], .ok ())
  | .colorTag g =>
    match Config.checkColorTag g with
    | .error r => (e, [], .error (.config r))
    | .ok tag => ({ e with config := { e.config with colorTag := tag } }, [], .ok ())
  | .resetCommand d =>
    match Config.checkResetCommand d with
    | .error r => (e, [], .error (.config r))
    | .ok t =>
      match Expression.resolve e.palette t with
      | .error u => (e, [], .error (.unresolvable u))
      | .ok _ => ({ e with config := { e.config with resetCommand := t } }, [], .ok ())

/-- The engine with rendering enabled; nothing happens where it is already. -/
def setup (e : Engine) : Engine × List LogRecord :=
  if e.config.enabled then (e, []) else e.setEnabled true

/-- What is told of one change of the palette. -/
def changeRecords (change : Palette.Change) : List LogRecord := [.palette change, .cacheCleared]

/-- The engine after a request to its palette, what it tells of the changes, and the answer.  The
cache is cleared after each change. -/
def askPalette (e : Engine) (request : Palette.Request) :
    Engine × List LogRecord × Except Palette.Refusal Palette.Reply :=
  let outcome := e.palette.perform request
  let after := { e with palette := outcome.palette }
  (if outcome.changes.isEmpty then after else after.clearCache,
    outcome.changes.flatMap changeRecords, outcome.reply)

/-- What can become of an engine by a setting that is accepted, and what it tells. -/
inductive Changes (e : Engine) : Engine → List LogRecord → Prop
  /-- Rendering is switched. -/
  | enabled (b : Bool) : Changes e (e.setEnabled b).1 (e.setEnabled b).2
  /-- Markup is replaced from now on, or no longer. -/
  | htmlTags (b : Bool) : Changes e { e with config := { e.config with htmlTags := b } } []
  /-- The cache is switched. -/
  | cache (b : Bool) :
      Changes e { e.clearCache with config := { e.config with cache := b } } [.cacheCleared]
  /-- The tag pattern is an accepted one. -/
  | colorTag {g : ColorTag.Given} {tag : ColorTag} (h : ColorTag.accept g = .ok tag) :
      Changes e { e with config := { e.config with colorTag := tag } } []
  /-- The reset command is one that resolves. -/
  | resetCommand {t sequence : Text} (h : Expression.resolve e.palette t = .ok sequence) :
      Changes e { e with config := { e.config with resetCommand := t } } []

/-- **A setting is refused or accepted:** where it is refused, the engine is as it was and tells
nothing. -/
theorem set_cases (e : Engine) (setting : Setting) :
    (∃ r, e.set setting = (e, [], .error r)) ∨
      ∃ f log, Changes e f log ∧ e.set setting = (f, log, .ok ()) := by
  cases setting with
  | enabled d =>
    simp only [set]
    split
    · exact .inl ⟨_, rfl⟩
    · exact .inr ⟨_, _, .enabled _, rfl⟩
  | htmlTags d =>
    simp only [set]
    split
    · exact .inl ⟨_, rfl⟩
    · exact .inr ⟨_, _, .htmlTags _, rfl⟩
  | cache d =>
    simp only [set]
    split
    · exact .inl ⟨_, rfl⟩
    · exact .inr ⟨_, _, .cache _, rfl⟩
  | colorTag g =>
    simp only [set, Config.checkColorTag]
    split
    · exact .inl ⟨_, rfl⟩
    · rename_i htag
      split at htag
      · rename_i haccept
        cases htag
        exact .inr ⟨_, _, .colorTag haccept, rfl⟩
      · cases htag
  | resetCommand d =>
    simp only [set]
    split
    · exact .inl ⟨_, rfl⟩
    · split
      · exact .inl ⟨_, rfl⟩
      · rename_i hresolves
        exact .inr ⟨_, _, .resetCommand hresolves, rfl⟩

/-- **A setting that is refused leaves the engine as it was and tells nothing.** -/
theorem set_of_error {e : Engine} {setting : Setting} {r : Refusal}
    (h : (e.set setting).2.2 = .error r) : e.set setting = (e, [], .error r) := by
  rcases e.set_cases setting with ⟨s, hset⟩ | ⟨f, log, -, hset⟩
  · rw [hset] at h ⊢
    rw [show s = r from Except.error.inj h]
  · rw [hset] at h
    cases h

/-- **A request to the palette that fails leaves the engine as it was and tells nothing,** unless it is
an update. -/
theorem askPalette_of_error {e : Engine} {request : Palette.Request} {r : Palette.Refusal}
    (h : (e.askPalette request).2.2 = .error r) (hupdate : ∀ pairs, request ≠ .update pairs) :
    e.askPalette request = (e, [], .error r) := by
  have hperform := Palette.perform_of_error h hupdate
  simp only [askPalette, hperform]
  rfl

end Engine
end TermStyle
