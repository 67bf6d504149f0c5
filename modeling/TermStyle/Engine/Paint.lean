/-
# Painting

| operation | result |
| --- | --- |
| `resolve` | the sequence of an expression |
| `rawPaint` | the text with its tags replaced |
| `paint` | the same between two reset sequences |
| `paintStyled` | the text painted behind the sequence of an expression |
| `noPaint` | the text without tags and sequences |

Every expression is resolved through the cache, whether rendering is enabled or not, so an
unresolvable one fails in both cases; only what is shown of the sequence differs.  Where the tag
pattern cannot search a text, `rawPaint` fails at once, and with it all that paints.  `noPaint`
says what is left of a text where it can; `unpaint` is the operation, which fails where it cannot.

An operation that resolves gives the engine after it next to its result, also where it fails:
the cache remembers what was looked up before.  To the engine, drawing is nothing but looking
expressions up, some number of times (`lookUps_paint`), which changes the cache alone
(`LookUps.sameButCache`).
-/

import TermStyle.Engine.Basic
import TermStyle.Markup

namespace TermStyle
namespace Engine

/-- What is shown of a sequence. -/
def visible (e : Engine) (sequence : Text) : Text := if e.config.enabled then sequence else []

/-- The sequence of an expression under the engine's palette. -/
def found (e : Engine) (expression : Text) : Except Refusal Text :=
  (Expression.resolve e.palette expression).mapError .unresolvable

/-- The sequence of an expression under the engine's palette, through the cache where it is
used. -/
def lookUp (e : Engine) (expression : Text) : Except Refusal Text × Engine :=
  if e.config.cache then
    let (found, cache) := e.cache.get (Expression.resolve e.palette) expression
    (found.mapError .unresolvable, { e with cache := cache })
  else (e.found expression, e)

/-- The sequence of an expression, as it is shown. -/
def resolve (e : Engine) (expression : Text) : Except Refusal Text × Engine :=
  match e.lookUp expression with
  | (.ok sequence, after) => (.ok (e.visible sequence), after)
  | (.error r, after) => (.error r, after)

/-- The sequence of the reset command. -/
def resetSequence (e : Engine) : Except Refusal Text × Engine :=
  e.resolve e.config.resetCommand

/-- The text of pieces, each inline tag replaced by the sequence of its expression; the first
expression that does not resolve ends it. -/
def replaceTags : Engine → List Text.Piece → Except Refusal Text × Engine
  | e, [] => (.ok [], e)
  | e, .plain c :: more =>
    match replaceTags e more with
    | (.ok painted, after) => (.ok (c :: painted), after)
    | (.error r, after) => (.error r, after)
  | e, .hit _ groups :: more =>
    match e.resolve (ColorTag.expression groups) with
    | (.error r, after) => (.error r, after)
    | (.ok sequence, after) =>
      match replaceTags after more with
      | (.ok painted, last) => (.ok (sequence ++ painted), last)
      | (.error r, last) => (.error r, last)

/-- The text with its markup tags replaced, where that is wanted. -/
def bridge (e : Engine) (colorize : Bool) (t : Text) : Text :=
  if e.config.htmlTags then Markup.bridge colorize t else t

/-- The text with its inline tags and markup tags replaced. -/
def rawPaint (e : Engine) (t : Text) : Except Refusal Text × Engine :=
  if e.config.colorTag.readsText then
    match e.replaceTags (Text.pieces e.config.colorTag.scan t) with
    | (.ok painted, after) => (.ok (e.bridge e.config.enabled painted), after)
    | (.error r, after) => (.error r, after)
  else (.error .unreadable, e)

/-- The painted text between two reset sequences, or one reset sequence where nothing is left to
paint. -/
def paint (e : Engine) (t : Text) : Except Refusal Text × Engine :=
  match e.rawPaint t with
  | (.error r, after) => (.error r, after)
  | (.ok painted, after) =>
    match after.resetSequence with
    | (.error r, last) => (.error r, last)
    | (.ok reset, last) => (.ok (if painted.isEmpty then reset else reset ++ painted ++ reset), last)

/-- The text without inline tags, without sequences and, where markup tags are replaced, without
those that are known. -/
def noPaint (e : Engine) (t : Text) : Text :=
  e.bridge false (Sgr.strip (Text.strip e.config.colorTag.scan t))

/-- What comes of taking all styles out of a text. -/
def unpaint (e : Engine) (t : Text) : Except Refusal Text :=
  if e.config.colorTag.readsText then .ok (e.noPaint t) else .error .unreadable

/-- The text painted in the style of an expression: its sequence goes in front of the text. -/
def paintStyled (e : Engine) (expression t : Text) : Except Refusal Text × Engine :=
  if t.isEmpty then e.resetSequence
  else
    match e.resolve expression with
    | (.error r, after) => (.error r, after)
    | (.ok sequence, after) => after.paint (sequence ++ t)

theorem found_eq_ok_iff {e : Engine} {x s : Text} :
    e.found x = .ok s ↔ Expression.resolve e.palette x = .ok s := by
  unfold found
  cases Expression.resolve e.palette x with
  | error u => exact iff_of_false (fun h => by cases h) (fun h => by cases h)
  | ok t => constructor <;> (intro h; cases h; rfl)

theorem found_eq_error_iff {e : Engine} {x : Text} {r : Refusal} :
    e.found x = .error r ↔ ∃ u, Expression.resolve e.palette x = .error u ∧ r = .unresolvable u := by
  unfold found
  cases Expression.resolve e.palette x with
  | ok t => exact iff_of_false (fun h => by cases h) (fun ⟨_, h, _⟩ => by cases h)
  | error u =>
    constructor
    · intro h
      cases h
      exact ⟨u, rfl, rfl⟩
    · rintro ⟨_, h, rfl⟩
      cases h
      rfl

/-- Whether two engines differ in nothing but the cache. -/
def SameButCache (e f : Engine) : Prop := f.config = e.config ∧ f.palette = e.palette

/-- One engine comes from another by looking up expressions. -/
inductive LookUps : Engine → Engine → Prop
  /-- Nothing is looked up. -/
  | none (e : Engine) : LookUps e e
  /-- An expression is looked up, and others after it. -/
  | more {e f : Engine} (expression : Text) (later : LookUps (e.lookUp expression).2 f) : LookUps e f

theorem LookUps.trans {e f g : Engine} (h : LookUps e f) (k : LookUps f g) : LookUps e g := by
  induction h with
  | none => exact k
  | more x _ ih => exact .more x (ih k)

theorem lookUps_resolve (e : Engine) (x : Text) : LookUps e (e.resolve x).2 := by
  have h : (e.resolve x).2 = (e.lookUp x).2 := by
    unfold resolve
    split <;> rename_i heq <;> rw [heq]
  exact h ▸ .more x (.none _)

theorem lookUps_replaceTags (e : Engine) (pieces : List Text.Piece) :
    LookUps e (e.replaceTags pieces).2 := by
  induction pieces generalizing e with
  | nil => exact .none e
  | cons p more ih =>
    cases p with
    | plain c =>
      have h := ih e
      unfold replaceTags
      split <;> rename_i heq <;> rw [heq] at h <;> exact h
    | hit matched groups =>
      have h := lookUps_resolve e (ColorTag.expression groups)
      unfold replaceTags
      split <;> rename_i after heq <;> rw [heq] at h
      · exact h
      · have k := ih after
        split <;> rename_i heq2 <;> rw [heq2] at k <;> exact h.trans k

theorem lookUps_rawPaint (e : Engine) (t : Text) : LookUps e (e.rawPaint t).2 := by
  have h := lookUps_replaceTags e (Text.pieces e.config.colorTag.scan t)
  unfold rawPaint
  split
  · split <;> rename_i heq <;> rw [heq] at h <;> exact h
  · exact .none e

/-- **Painting looks expressions up and does nothing else to the engine.** -/
theorem lookUps_paint (e : Engine) (t : Text) : LookUps e (e.paint t).2 := by
  have h := lookUps_rawPaint e t
  unfold paint
  split <;> rename_i after heq <;> rw [heq] at h
  · exact h
  · have k := lookUps_resolve after after.config.resetCommand
    unfold resetSequence
    split <;> rename_i heq2 <;> rw [heq2] at k <;> exact h.trans k

theorem lookUps_paintStyled (e : Engine) (x t : Text) : LookUps e (e.paintStyled x t).2 := by
  unfold paintStyled
  split
  · exact lookUps_resolve e e.config.resetCommand
  · have h := lookUps_resolve e x
    split <;> rename_i after heq <;> rw [heq] at h
    · exact h
    · exact h.trans (lookUps_paint after _)

theorem lookUp_sameButCache (e : Engine) (x : Text) : SameButCache e (e.lookUp x).2 := by
  unfold lookUp
  split <;> exact ⟨rfl, rfl⟩

/-- **Looking expressions up changes nothing but the cache.** -/
theorem LookUps.sameButCache {e f : Engine} (h : LookUps e f) : SameButCache e f := by
  induction h with
  | none => exact ⟨rfl, rfl⟩
  | @more e _ x _ ih =>
    have first := lookUp_sameButCache e x
    exact ⟨ih.1.trans first.1, ih.2.trans first.2⟩

end Engine
end TermStyle
