/-
# Validation without rendering

An expression is looked up before it is asked whether rendering is enabled, so an engine that shows
nothing fails where it would fail if it showed something, and keeps the same sequences.  This holds of
any two engines that differ in nothing else (`SameButEnabled`), whatever their caches hold.

What is shown may differ from one lookup on, and in the end one of them may have something to put
between the resets where the other has nothing.  So two drawings are compared by what is the same
(`Alike`): they fail alike or both succeed, and the engines after them are the same again but for the
flag.  One lookup is alike (`SameButEnabled.resolve`), and so is what comes of drawings that are alike
if what comes next is (`Alike.andThen`); the operations and whole runs follow.
-/

import TermStyle.Proofs.Engine.Sequencing
import TermStyle.Proofs.Engine.Switching

namespace TermStyle

set_option maxRecDepth 4000
namespace Engine

/-- Whether two engines differ in nothing but whether rendering is enabled. -/
structure SameButEnabled (e f : Engine) : Prop where
  /-- The settings are the same but for one. -/
  config : f.config = { e.config with enabled := f.config.enabled }
  /-- The palettes are the same. -/
  palette : f.palette = e.palette
  /-- The caches are the same, with the order of their entries and the counts. -/
  cache : f.cache = e.cache

/-- Two drawings that fail alike or both succeed, with engines after them that differ in nothing but
whether rendering is enabled. -/
inductive Alike : Drawn → Drawn → Prop
  /-- Both fail, and for the same reason. -/
  | failed {e f : Engine} (r : Refusal) (h : SameButEnabled e f) :
      Alike (.error r, e) (.error r, f)
  /-- Both succeed, whatever they show. -/
  | drawn {e f : Engine} (s t : Text) (h : SameButEnabled e f) : Alike (.ok s, e) (.ok t, f)

/-- **What takes up drawings that are alike is alike,** if it is so whatever the two have shown. -/
theorem Alike.andThen {d k : Drawn} (h : Alike d k) {next next' : Text → Engine → Drawn}
    (hnext : ∀ s t e f, SameButEnabled e f → Alike (next s e) (next' t f)) :
    Alike (Engine.andThen d next) (Engine.andThen k next') := by
  cases h with
  | failed r hafter => exact .failed r hafter
  | drawn s t hafter => exact hnext s t _ _ hafter

theorem Alike.behind {d k : Drawn} (h : Alike d k) (s t : Text) :
    Alike (Engine.behind s d) (Engine.behind t k) :=
  h.andThen fun _ _ _ _ hafter => .drawn _ _ hafter

section Drawing

variable {e f : Engine} (h : SameButEnabled e f)
include h

theorem SameButEnabled.lookUp (x : Text) : Alike (e.lookUp x) (f.lookUp x) := by
  have hcache : f.config.cache = e.config.cache := by rw [h.config]
  unfold Engine.lookUp
  rw [hcache, h.palette, h.cache]
  split
  · have hafter : ∀ c, SameButEnabled { e with cache := c } { f with palette := e.palette, cache := c } :=
      fun c => ⟨h.config, rfl, rfl⟩
    rcases e.cache.get (Expression.resolve e.palette) x with ⟨found, cache⟩
    cases found with
    | ok sequence => exact .drawn _ _ (hafter cache)
    | error u => exact .failed (.unresolvable u) (hafter cache)
  · have hfound : f.found x = e.found x := by rw [found, found, h.palette]
    rw [hfound]
    cases e.found x with
    | ok sequence => exact .drawn _ _ h
    | error r => exact .failed r h

theorem SameButEnabled.resolve (x : Text) : Alike (e.resolve x) (f.resolve x) := by
  rw [resolve_eq, resolve_eq]
  exact (h.lookUp x).andThen fun _ _ _ _ hafter => .drawn _ _ hafter

theorem SameButEnabled.resetSequence : Alike e.resetSequence f.resetSequence := by
  have hreset : f.config.resetCommand = e.config.resetCommand := by rw [h.config]
  rw [Engine.resetSequence, Engine.resetSequence, hreset]
  exact h.resolve _

theorem SameButEnabled.replaceTags (pieces : List Text.Piece) :
    Alike (e.replaceTags pieces) (f.replaceTags pieces) := by
  induction pieces generalizing e f with
  | nil => exact .drawn [] [] h
  | cons p more ih =>
    cases p with
    | plain c =>
      rw [replaceTags_plain, replaceTags_plain]
      exact (ih h).behind [c] [c]
    | hit matched groups =>
      rw [replaceTags_hit, replaceTags_hit]
      exact (h.resolve _).andThen fun s t _ _ hafter => (ih hafter).behind s t

theorem SameButEnabled.rawPaint (t : Text) : Alike (e.rawPaint t) (f.rawPaint t) := by
  have htag : f.config.colorTag = e.config.colorTag := by rw [h.config]
  cases hreads : e.config.colorTag.readsText with
  | false =>
    rw [rawPaint_of_unreadable hreads, rawPaint_of_unreadable (htag ▸ hreads)]
    exact .failed .unreadable h
  | true =>
    rw [rawPaint_eq hreads, rawPaint_eq (htag ▸ hreads), htag]
    exact (h.replaceTags _).andThen fun _ _ _ _ hafter => .drawn _ _ hafter

/-- The reset command is looked up in the end, whether there is anything to put between the resets
or not. -/
theorem SameButEnabled.paint (t : Text) : Alike (e.paint t) (f.paint t) := by
  rw [paint_eq, paint_eq]
  refine (h.rawPaint t).andThen fun _ _ _ _ hafter => ?_
  exact hafter.resetSequence.andThen fun _ _ _ _ hlast => .drawn _ _ hlast

end Drawing

/-- What an engine can be asked to draw. -/
inductive Drawing
  /-- The sequence of an expression. -/
  | resolve (x : Text)
  /-- The sequence of the reset command. -/
  | resetSequence
  /-- A text with its tags replaced. -/
  | rawPaint (t : Text)
  /-- A painted text. -/
  | paint (t : Text)
  deriving DecidableEq, Repr

/-- What comes of a request to draw. -/
def draw (e : Engine) : Drawing → Drawn
  | .resolve x => e.resolve x
  | .resetSequence => e.resetSequence
  | .rawPaint t => e.rawPaint t
  | .paint t => e.paint t

/-- What comes of requests one after another.  One that fails does not end it. -/
def drawings (e : Engine) : List Drawing → List Drawn
  | [] => []
  | request :: more => e.draw request :: drawings (e.draw request).2 more

/-- What a drawing fails with, if it fails. -/
def Drawn.failure : Drawn → Option Refusal
  | (.error r, _) => some r
  | (.ok _, _) => none

theorem SameButEnabled.draw {e f : Engine} (h : SameButEnabled e f) (request : Drawing) :
    Alike (e.draw request) (f.draw request) := by
  cases request with
  | resolve x => exact h.resolve x
  | resetSequence => exact h.resetSequence
  | rawPaint t => exact h.rawPaint t
  | paint t => exact h.paint t

theorem Alike.failure_eq {d k : Drawn} (h : Alike d k) : Drawn.failure k = Drawn.failure d := by
  cases h <;> rfl

theorem Alike.sameButEnabled {d k : Drawn} (h : Alike d k) : SameButEnabled d.2 k.2 := by
  cases h <;> assumption

/-- **What fails does not depend on whether rendering is enabled.**  Two engines that differ in nothing
else are asked to draw the same, any number of times.  Each time both succeed, or both fail for the same
reason, which is the same token of the same expression where an expression does not resolve; and each
time they are left with the same cache, its entries in the same order and its counts the same. -/
theorem SameButEnabled.drawings_alike {e f : Engine} (h : SameButEnabled e f)
    (requests : List Drawing) :
    (f.drawings requests).map (fun d => (Drawn.failure d, d.2.cache)) =
      (e.drawings requests).map fun d => (Drawn.failure d, d.2.cache) := by
  induction requests generalizing e f with
  | nil => rfl
  | cons request more ih =>
    have hdraw := h.draw request
    have hafter := hdraw.sameButEnabled
    simp only [drawings, List.map_cons, hdraw.failure_eq, hafter.cache, ih hafter]

/-- A text that can be painted, one with a tag that does not resolve, and the reset command after
that. -/
def rehearsal : List Drawing :=
  [.paint "<b>${bold}".toList, .rawPaint "${dim}${none}".toList, .resetSequence]

/-- With rendering on or off the second of three drawings fails, and its first tag is kept. -/
theorem drawings_alike_rehearsal : SameButEnabled (bridging true) (bridging false) ∧
    ((bridging false).drawings rehearsal).map (fun d => (Drawn.failure d, d.2.cache)) =
      ((bridging true).drawings rehearsal).map (fun d => (Drawn.failure d, d.2.cache)) ∧
    ((bridging false).drawings rehearsal).map (fun d => (Drawn.failure d, d.2.cache.entries.keys)) =
      [(none, ["reset font_0".toList, "bold".toList]),
        (some (.unresolvable ⟨"none".toList, "none".toList⟩), ["dim".toList, "reset font_0".toList, "bold".toList]),
        (none, ["reset font_0".toList, "dim".toList, "bold".toList])] := by
  have hsame : SameButEnabled (bridging true) (bridging false) := ⟨rfl, rfl, rfl⟩
  exact ⟨hsame, hsame.drawings_alike rehearsal, by decide⟩

end Engine
end TermStyle
