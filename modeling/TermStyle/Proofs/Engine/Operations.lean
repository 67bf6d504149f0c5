/-
# Operations of an engine

What becomes of one engine is a run of operations, one after another.  Each of them is a step
(`step_operate`), and most of them leave every name in the palette.

| operation | names in the palette |
| --- | --- |
| a drawing, a setting, `setup` | as they were |
| `set`, `update`, `setDefault` | all stay, others may come in |
| `delete`, `pop`, `popFirst`, `clear` | some are taken out |
| any other request to the palette | as they were |

So names are taken out by four requests to the palette and by nothing else (`keys_subset_operate`).
-/

import TermStyle.Proofs.Engine.Coherence
import TermStyle.Proofs.Palette.Changes

namespace TermStyle
namespace Engine

/-- An operation of an engine, or of a builder of its own. -/
inductive Operation
  /-- The sequence of an expression is asked for. -/
  | resolve (x : Text)
  /-- The sequence of the reset command is asked for. -/
  | resetSequence
  /-- The tags of a text are replaced. -/
  | rawPaint (t : Text)
  /-- A text is painted. -/
  | paint (t : Text)
  /-- A text is painted with a builder. -/
  | paintStyled (b : Builder) (t : Text)
  /-- The styles are taken out of a text. -/
  | unpaint (t : Text)
  /-- A setting is changed, if its value is accepted. -/
  | set (setting : Setting)
  /-- Rendering is enabled. -/
  | setup
  /-- The palette is asked. -/
  | palette (request : Palette.Request)

/-- The engine after an operation, whether it succeeds or fails. -/
def operate (e : Engine) : Operation → Engine
  | .resolve x => (e.resolve x).2
  | .resetSequence => e.resetSequence.2
  | .rawPaint t => (e.rawPaint t).2
  | .paint t => (e.paint t).2
  | .paintStyled b t => (e.paintStyled b.expression t).2
  | .unpaint _ => e
  | .set setting => (e.set setting).1
  | .setup => e.setup.1
  | .palette request => (e.askPalette request).1

/-- The engines after each of some operations, one after another. -/
def along (e : Engine) : List Operation → List Engine
  | [] => []
  | operation :: more => e.operate operation :: (e.operate operation).along more

/-- Whether an operation takes names out of the palette. -/
def Operation.takesOut : Operation → Bool
  | .palette request => request.takesOut
  | _ => false

/-- **Every operation is a step.** -/
theorem step_operate (e : Engine) (operation : Operation) : Step e (e.operate operation) := by
  cases operation with
  | resolve x => exact .draw (e.lookUps_resolve x)
  | resetSequence => exact .draw (e.lookUps_resolve _)
  | rawPaint t => exact .draw (e.lookUps_rawPaint t)
  | paint t => exact .draw (e.lookUps_paint t)
  | paintStyled b t => exact .draw (e.lookUps_paintStyled b.expression t)
  | unpaint t => exact .draw (.none e)
  | set setting => exact .set e setting
  | setup => exact .setup e
  | palette request => exact .askPalette e request

/-- What is asked of an engine, and is no request to the palette, leaves the palette alone. -/
theorem palette_operate {e : Engine} {operation : Operation}
    (h : ∀ request, operation ≠ .palette request) : (e.operate operation).palette = e.palette := by
  cases operation with
  | resolve x => exact (e.lookUps_resolve x).sameButCache.2
  | resetSequence => exact (e.lookUps_resolve _).sameButCache.2
  | rawPaint t => exact (e.lookUps_rawPaint t).sameButCache.2
  | paint t => exact (e.lookUps_paint t).sameButCache.2
  | paintStyled b t => exact (e.lookUps_paintStyled b.expression t).sameButCache.2
  | unpaint t => rfl
  | set setting => exact (e.set_keeps setting).1
  | setup => exact e.setup_cases.1
  | palette request => exact absurd rfl (h request)

/-- **All names stay,** unless a request to the palette is there to take them out. -/
theorem keys_subset_operate (e : Engine) {operation : Operation} (h : operation.takesOut = false) :
    e.palette.keys ⊆ (e.operate operation).palette.keys := by
  by_cases hask : ∃ request, operation = .palette request
  · obtain ⟨request, rfl⟩ := hask
    exact (e.askPalette_cases request).1 ▸ Palette.keys_subset_perform h
  · rw [palette_operate fun request hrequest => hask ⟨request, hrequest⟩]
    exact List.Subset.refl _

/-- Along a run, engines stay coherent. -/
theorem Coherent.along {e : Engine} (he : e.Coherent) (operations : List Operation) :
    ∀ f ∈ e :: e.along operations, f.Coherent := by
  induction operations generalizing e with
  | nil => exact List.forall_mem_singleton.2 he
  | cons operation more ih =>
    exact List.forall_mem_cons.2 ⟨he, ih (Coherent.step he (e.step_operate operation))⟩

end Engine
end TermStyle
