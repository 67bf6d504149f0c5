/-
# Drawing one thing after another

Every operation that draws is a sequence of lookups.  What one of them gives is taken up by the next,
which is done by the engine that the first has left; where one fails, nothing comes after it.  This is
said once (`andThen`), and each operation is an equation about it:

| operation | first | and then |
| --- | --- | --- |
| `replaceTags`, at a tag | its expression is resolved | the rest of the tags |
| `rawPaint` | the tags are replaced | the bridge |
| `paint` | the text is painted | the reset command is resolved |
| `paintStyled` | the expression is resolved | its sequence and the text are painted |

So what is true of all of them follows from what is true of one lookup and of one step to the next, and
two ways to draw can be compared by sorting the steps in another way (`andThen_assoc`).
-/

import TermStyle.Engine.Paint

namespace TermStyle
namespace Engine

/-- A drawing: what it gives or fails with, and the engine after it. -/
abbrev Drawn := Except Refusal Text × Engine

/-- What comes of a drawing and, unless it fails, of another one that takes it up. -/
def andThen (d : Drawn) (next : Text → Engine → Drawn) : Drawn :=
  match d with
  | (.error u, after) => (.error u, after)
  | (.ok t, after) => next t after

/-- A drawing with a text in front of what it gives. -/
def behind (s : Text) (d : Drawn) : Drawn := andThen d fun t after => (.ok (s ++ t), after)

theorem andThen_assoc (d : Drawn) (next last : Text → Engine → Drawn) :
    andThen (andThen d next) last = andThen d fun t after => andThen (next t after) last := by
  obtain ⟨answer, after⟩ := d
  cases answer <;> rfl

theorem resolve_eq (e : Engine) (x : Text) :
    e.resolve x = andThen (e.lookUp x) fun sequence after => (.ok (e.visible sequence), after) := by
  unfold resolve
  rcases e.lookUp x with ⟨answer, after⟩
  cases answer <;> rfl

theorem replaceTags_plain (e : Engine) (c : Char) (more : List Text.Piece) :
    e.replaceTags (.plain c :: more) = behind [c] (e.replaceTags more) := by
  rw [replaceTags]
  rcases e.replaceTags more with ⟨answer, after⟩
  cases answer <;> rfl

theorem replaceTags_hit (e : Engine) (matched : Text) (groups : List (Option Text))
    (more : List Text.Piece) :
    e.replaceTags (.hit matched groups :: more) =
      andThen (e.resolve (ColorTag.expression groups)) fun sequence after =>
        behind sequence (after.replaceTags more) := by
  rw [replaceTags]
  rcases e.resolve (ColorTag.expression groups) with ⟨answer, after⟩
  cases answer with
  | error u => rfl
  | ok sequence =>
    dsimp only [andThen, behind]
    rcases after.replaceTags more with ⟨answer, last⟩
    cases answer <;> rfl

theorem behind_behind (s t : Text) (d : Drawn) : behind s (behind t d) = behind (s ++ t) d := by
  obtain ⟨answer, after⟩ := d
  cases answer with
  | error u => rfl
  | ok painted => exact congrArg (Except.ok ·, after) (List.append_assoc s t painted).symm

/-- Characters outside of every tag come in front of what is painted of the rest. -/
theorem replaceTags_plain_append (e : Engine) (s : Text) (more : List Text.Piece) :
    e.replaceTags (s.map .plain ++ more) = behind s (e.replaceTags more) := by
  induction s with
  | nil =>
    rw [List.map_nil, List.nil_append]
    rcases e.replaceTags more with ⟨answer, after⟩
    cases answer <;> rfl
  | cons c s ih =>
    rw [List.map_cons, List.cons_append, replaceTags_plain, ih, behind_behind, List.singleton_append]

theorem rawPaint_eq {e : Engine} (h : e.config.colorTag.readsText = true) (t : Text) :
    e.rawPaint t = andThen (e.replaceTags (Text.pieces e.config.colorTag.scan t)) fun painted after =>
      (.ok (e.bridge e.config.enabled painted), after) := by
  rw [rawPaint, if_pos h]
  rcases e.replaceTags (Text.pieces e.config.colorTag.scan t) with ⟨answer, after⟩
  cases answer <;> rfl

/-- Where no text can be searched, painting fails at once. -/
theorem rawPaint_of_unreadable {e : Engine} (h : e.config.colorTag.readsText = false) (t : Text) :
    e.rawPaint t = (.error .unreadable, e) := by
  rw [rawPaint, h, if_neg Bool.false_ne_true]

/-- A painted text between two resets, or one reset where nothing was painted. -/
def between (reset painted : Text) : Text :=
  if painted.isEmpty then reset else reset ++ painted ++ reset

/-- What comes of a painted text when the reset command is resolved. -/
def enclose (painted : Text) (after : Engine) : Drawn :=
  andThen after.resetSequence fun reset last => (.ok (between reset painted), last)

theorem paint_eq (e : Engine) (t : Text) : e.paint t = andThen (e.rawPaint t) enclose := by
  rw [paint]
  rcases e.rawPaint t with ⟨answer, after⟩
  cases answer with
  | error u => rfl
  | ok painted =>
    dsimp only [andThen, enclose]
    rcases after.resetSequence with ⟨answer, last⟩
    cases answer <;> rfl

theorem paintStyled_eq (e : Engine) (x : Text) {t : Text} (ht : t ≠ []) :
    e.paintStyled x t = andThen (e.resolve x) fun sequence after => after.paint (sequence ++ t) := by
  rw [paintStyled, if_neg (ht ∘ List.isEmpty_iff.1)]
  rcases e.resolve x with ⟨answer, after⟩
  cases answer <;> rfl

end Engine
end TermStyle
