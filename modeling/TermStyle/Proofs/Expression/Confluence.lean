/-
# The steps of the normal form in any order

The normal form is taken in three steps: `bright`, then `bg`, then `off`.  Each step joins words at runs of
its own and leaves what the others look at, so steps that are taken one after another, whichever they are,
join where one of them does (`joinsWhere_foldAll`).

Which steps are taken is therefore all that counts, and neither their order nor how often each of them is
taken (`foldAll_congr`).  Where all three are, the normal form comes out; in particular it is the normal form
of itself (`foldAll_eq_normalize`).
-/

import TermStyle.Proofs.Expression.Joining

namespace TermStyle
namespace Expression

/-- A step of the normal form. -/
inductive Fold
  /-- Joins `bright` to the word behind it. -/
  | bright
  /-- Joins `bg` to the word behind it. -/
  | background
  /-- Joins `off` to the word before it. -/
  | off
  deriving DecidableEq, Repr

namespace Fold

/-- What a step makes of a text. -/
def apply : Fold → Text → Text
  | bright => foldBright
  | background => foldBackground
  | off => foldOff

/-- The runs at which a step joins. -/
def Joins : Fold → Text → Text → Prop
  | bright => fun w _ => Closes brightWord w
  | background => fun w _ => Closes backgroundWord w
  | off => fun _ y => Opens offWord y

theorem isLocal (f : Fold) : Local f.Joins := by
  cases f with
  | bright => exact local_closes isModifier_brightWord
  | background => exact local_closes isModifier_backgroundWord
  | off => exact local_opens isModifier_offWord

theorem joinsWhere (f : Fold) : JoinsWhere f.Joins f.apply := by
  cases f with
  | bright => exact joinsWhere_foldBright
  | background => exact joinsWhere_foldBackground
  | off => exact joinsWhere_foldOff

end Fold

/-- What is left of a text when steps are taken one after another. -/
def foldAll (folds : List Fold) (t : Text) : Text := folds.foldl (fun t f => f.apply t) t

/-- The runs at which one of the steps joins. -/
def JoinsAny (folds : List Fold) (w y : Text) : Prop := ∃ f ∈ folds, f.Joins w y

theorem local_joinsAny (folds : List Fold) : Local (JoinsAny folds) where
  before w y ha := exists_congr fun f => and_congr_right fun _ => f.isLocal.before w y ha
  behind w y hz := exists_congr fun f => and_congr_right fun _ => f.isLocal.behind w y hz

/-- It makes no difference in which words it is said where words are joined. -/
theorem JoinsWhere.congr {joins others : Text → Text → Prop} {fold : Text → Text} (h : JoinsWhere joins fold)
    (hsame : ∀ w y, joins w y ↔ others w y) : JoinsWhere others fold where
  word := h.word
  line := h.line
  joined hw hr hy hjoins := h.joined hw hr hy ((hsame _ _).2 hjoins)
  kept hw hr hy hnot := h.kept hw hr hy fun hjoins => hnot ((hsame _ _).1 hjoins)

/-- **Steps join where one of them does,** in whichever order they are taken. -/
theorem joinsWhere_foldAll (folds : List Fold) : JoinsWhere (JoinsAny folds) (foldAll folds) := by
  induction folds with
  | nil =>
    exact {
      word := fun _ => rfl
      line := fun _ _ => rfl
      joined := fun _ _ _ ⟨_, hf, _⟩ => absurd hf List.not_mem_nil
      kept := fun _ _ _ _ => rfl }
  | cons f folds ih =>
    refine (f.joinsWhere.andThen ih (local_joinsAny folds)).congr fun w y => ?_
    simp only [JoinsAny, List.mem_cons, exists_eq_or_imp]

/-- **Neither the order of the steps counts nor how often one is taken.** -/
theorem foldAll_congr {folds others : List Fold} (h : ∀ f, f ∈ folds ↔ f ∈ others) :
    foldAll folds = foldAll others := by
  refine (joinsWhere_foldAll folds).unique ((joinsWhere_foldAll others).congr fun w y => ?_)
  exact exists_congr fun f => and_congr_left fun _ => (h f).symm

/-- The steps that the normal form takes. -/
def standardFolds : List Fold := [.bright, .background, .off]

theorem mem_standardFolds (f : Fold) : f ∈ standardFolds := by
  cases f <;> decide

theorem foldAll_standardFolds (e : Text) : foldAll standardFolds e = normalize e := by
  simp only [foldAll, standardFolds, List.foldl, Fold.apply, normalize]

theorem foldAll_of_forall_mem {folds : List Fold} (h : ∀ f, f ∈ folds) (e : Text) :
    foldAll folds e = normalize e := by
  rw [foldAll_congr fun f => iff_of_true (h f) (mem_standardFolds f), foldAll_standardFolds]

/-- **The steps of the normal form are confluent:** to take them in any order, and as often as one likes,
comes to the normal form if each is taken at all.  So the normal form of a normal form is the same again. -/
theorem foldAll_eq_normalize (e : Text) :
    (∀ folds : List Fold, (∀ f, f ∈ folds) → foldAll folds e = normalize e) ∧
      normalize (normalize e) = normalize e := by
  refine ⟨fun folds hall => foldAll_of_forall_mem hall e, ?_⟩
  -- Twice the normal form is six steps.
  calc normalize (normalize e)
      = foldAll standardFolds (foldAll standardFolds e) := by rw [foldAll_standardFolds, foldAll_standardFolds]
    _ = foldAll (standardFolds ++ standardFolds) e := List.foldl_append.symm
    _ = normalize e := foldAll_of_forall_mem (fun f => List.mem_append_left _ (mem_standardFolds f)) e

/-- The steps backwards, with some of them taken twice, of an expression in which each of them joins. -/
theorem foldAll_eq_normalize_backwards :
    (∀ f, f ∈ [Fold.off, .bright, .off, .background, .bright]) ∧
    foldAll [.off, .bright, .off, .background, .bright] "bold bright  bg\tred off".toList =
      normalize "bold bright  bg\tred off".toList ∧
    normalize "bold bright  bg\tred off".toList = "bold bright_bg_red_off".toList := by
  have hall : ∀ f, f ∈ [Fold.off, .bright, .off, .background, .bright] := by
    intro f
    cases f <;> decide
  exact ⟨hall, (foldAll_eq_normalize _).1 _ hall, by decide⟩

end Expression
end TermStyle
