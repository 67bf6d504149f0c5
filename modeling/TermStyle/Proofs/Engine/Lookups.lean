/-
# What drawing looks up

Each operation that draws asks for a list of expressions, which can be read off its arguments:

| operation | expressions |
| --- | --- |
| `resolve` | the one it is given |
| `resetSequence` | the reset command |
| `rawPaint` | those of the inline tags, from left to right |
| `paint` | those of the inline tags and then the reset command |
| `paintStyled` | its own and then those of `paint`, or the reset command where there is no text |

It looks them up in this order and stops at the first one that does not resolve (`attempted`).  That is all
that becomes of the engine (`Asks`): drawing one thing after another asks for one list after another
(`Asks.andThen`), so each line follows from the lookups that the operation is made of.  The last three lines
are about tags that texts can be searched for.

Whether a lookup is a hit or a miss, it is one more in the counts of the cache, unless the cache is off
(`lookups_lookedUp`).
-/

import TermStyle.Proofs.Engine.Styled

namespace TermStyle

namespace Cache

variable {κ β ε : Type}

/-- The number of lookups that a cache has counted. -/
def lookups (c : Cache κ β) : Nat := c.hits + c.misses

/-- **Every lookup is counted once,** as a hit or as a miss, also where it fails. -/
theorem lookups_get [BEq κ] (c : Cache κ β) (compute : κ → Except ε β) (key : κ) :
    (c.get compute key).2.lookups = c.lookups + 1 := by
  cases hf : c.find? key with
  | some value =>
    rw [get_of_find? hf]
    exact Nat.add_right_comm c.hits 1 c.misses
  | none => cases hk : compute key <;> simp only [get, hf, hk, lookups, Nat.add_assoc]

end Cache

namespace Engine

/-- The engine after expressions were looked up one after another. -/
def lookedUp (e : Engine) (xs : List Text) : Engine := xs.foldl (fun f x => (f.lookUp x).2) e

/-- Whether an expression resolves. -/
def resolves (e : Engine) (x : Text) : Bool := (Expression.resolve e.palette x).isOk

/-- Those of some expressions that are looked up: all up to the first that does not resolve. -/
def attempted (e : Engine) : List Text → List Text
  | [] => []
  | x :: more => if e.resolves x then x :: attempted e more else [x]

/-- The expressions of the hits among pieces. -/
def expressions : List Text.Piece → List Text
  | [] => []
  | .plain _ :: more => expressions more
  | .hit _ groups :: more => ColorTag.expression groups :: expressions more

/-- The expressions of the inline tags in a text, from left to right. -/
def inlineTags (e : Engine) (t : Text) : List Text :=
  (Text.spans e.config.colorTag.scan t).map fun span => ColorTag.expression span.groups

theorem map_spansFrom (start : Nat) (pieces : List Text.Piece) :
    (Text.spansFrom start pieces).map (fun span => ColorTag.expression span.groups) = expressions pieces := by
  induction pieces generalizing start with
  | nil => rfl
  | cons p more ih =>
    cases p with
    | plain c => exact ih _
    | hit w groups => exact congrArg (ColorTag.expression groups :: ·) (ih _)

theorem inlineTags_eq (e : Engine) (t : Text) :
    e.inlineTags t = expressions (Text.pieces e.config.colorTag.scan t) :=
  map_spansFrom 0 _

/-- Characters outside of every tag add no expression. -/
theorem expressions_plain_append (s : Text) (more : List Text.Piece) :
    expressions (s.map .plain ++ more) = expressions more := by
  induction s with
  | nil => rfl
  | cons c s ih => exact ih

theorem lookUps_lookedUp (e : Engine) (xs : List Text) : LookUps e (e.lookedUp xs) := by
  induction xs generalizing e with
  | nil => exact .none e
  | cons x xs ih => exact .more x (ih _)

theorem lookedUp_append (e : Engine) (xs ys : List Text) :
    e.lookedUp (xs ++ ys) = (e.lookedUp xs).lookedUp ys :=
  List.foldl_append

/-- **As many lookups are counted as there are expressions,** and none while the cache is off. -/
theorem lookups_lookedUp (e : Engine) (xs : List Text) :
    (e.lookedUp xs).cache.lookups = e.cache.lookups + if e.config.cache then xs.length else 0 := by
  induction xs generalizing e with
  | nil => simp [lookedUp]
  | cons x xs ih =>
    have hsame := (e.lookUp_sameButCache x).1
    have hfirst : (e.lookUp x).2.cache.lookups = e.cache.lookups + if e.config.cache then 1 else 0 := by
      unfold lookUp
      split
      · exact Cache.lookups_get _ _ _
      · rfl
    have hrest := ih (e.lookUp x).2
    rw [hsame, hfirst] at hrest
    change ((e.lookUp x).2.lookedUp xs).cache.lookups = _
    rw [hrest, List.length_cons]
    split <;> omega

theorem attempted_of_all {e : Engine} {xs : List Text} (h : xs.all e.resolves = true) (ys : List Text) :
    e.attempted (xs ++ ys) = xs ++ e.attempted ys := by
  induction xs with
  | nil => rfl
  | cons x xs ih =>
    obtain ⟨hx, hxs⟩ := Bool.and_eq_true_iff.1 h
    rw [List.cons_append, attempted, if_pos hx, ih hxs, List.cons_append]

theorem attempted_of_not_all {e : Engine} {xs : List Text} (h : xs.all e.resolves = false) (ys : List Text) :
    e.attempted (xs ++ ys) = e.attempted xs := by
  induction xs with
  | nil => cases h
  | cons x xs ih =>
    rw [List.cons_append, attempted, attempted]
    split
    · rename_i hx
      rw [List.all_cons, hx, Bool.true_and] at h
      rw [ih h]
    · rfl

theorem SameButCache.resolves {e f : Engine} (h : SameButCache e f) : f.resolves = e.resolves := by
  funext x
  rw [Engine.resolves, Engine.resolves, h.2]

theorem SameButCache.attempted {e f : Engine} (h : SameButCache e f) (xs : List Text) :
    f.attempted xs = e.attempted xs := by
  induction xs with
  | nil => rfl
  | cons x xs ih => rw [Engine.attempted, Engine.attempted, h.resolves, ih]

/-- **What a drawing looks up:** some expressions, in their order, up to the first that does not resolve.
It succeeds if all of them do. -/
structure Asks (e : Engine) (xs : List Text) (d : Drawn) : Prop where
  /-- The engine after it has looked up what it attempted. -/
  after : d.2 = e.lookedUp (e.attempted xs)
  /-- It fails with the first expression that does. -/
  succeeds : d.1.isOk = xs.all e.resolves

section Asks

variable {e : Engine} (he : e.Coherent)
include he

/-- **One drawing after another asks for one list after another,** if the first one does not fail. -/
theorem Asks.andThen {xs ys : List Text} {d : Drawn} {next : Text → Engine → Drawn} (h : Asks e xs d)
    (hnext : ∀ t f, d = (.ok t, f) → SameButCache e f → f.Coherent → Asks f ys (next t f)) :
    Asks e (xs ++ ys) (Engine.andThen d next) := by
  obtain ⟨answer, f⟩ := d
  obtain ⟨hafter, hsucceeds⟩ := h
  have hl : LookUps e f := by
    change f = _ at hafter
    exact hafter ▸ e.lookUps_lookedUp _
  cases answer with
  | error u =>
    have hfails : xs.all e.resolves = false := hsucceeds.symm
    exact ⟨by rw [attempted_of_not_all hfails]; exact hafter, by rw [List.all_append, hfails]; rfl⟩
  | ok t =>
    have hall : xs.all e.resolves = true := hsucceeds.symm
    have hsame := hl.sameButCache
    obtain ⟨hlast, hok⟩ := hnext t f rfl hsame (he.lookUps hl)
    have hfirst : f = e.lookedUp xs := by
      have hnone := attempted_of_all hall []
      rw [List.append_nil, attempted, List.append_nil] at hnone
      exact hnone ▸ hafter
    constructor
    · change (next t f).2 = _
      rw [hlast, attempted_of_all hall, lookedUp_append, hsame.attempted, ← hfirst]
    · change (next t f).1.isOk = _
      rw [hok, List.all_append, hall, hsame.resolves, Bool.true_and]

/-- What is made of the text of a drawing makes no difference to what is looked up. -/
theorem Asks.shown {xs : List Text} {d : Drawn} (h : Asks e xs d) (draw : Text → Engine → Text) :
    Asks e xs (Engine.andThen d fun t f => (.ok (draw t f), f)) := by
  have hmore : Asks e (xs ++ []) (Engine.andThen d fun t f => (.ok (draw t f), f)) :=
    h.andThen he fun _ _ _ _ _ => ⟨rfl, rfl⟩
  rwa [List.append_nil] at hmore

theorem asks_lookUp (x : Text) : Asks e [x] (e.lookUp x) := by
  constructor
  · unfold attempted
    split <;> rfl
  · rw [he.fst_lookUp x, List.all_cons, List.all_nil, Bool.and_true, resolves, found]
    cases Expression.resolve e.palette x <;> rfl

theorem asks_resolve (x : Text) : Asks e [x] (e.resolve x) := by
  rw [resolve_eq]
  exact (asks_lookUp he x).shown he fun sequence _ => e.visible sequence

theorem asks_resetSequence : Asks e [e.config.resetCommand] e.resetSequence := asks_resolve he _

theorem asks_replaceTags (pieces : List Text.Piece) : Asks e (expressions pieces) (e.replaceTags pieces) := by
  induction pieces generalizing e with
  | nil => exact ⟨rfl, rfl⟩
  | cons p more ih =>
    cases p with
    | plain c =>
      rw [replaceTags_plain]
      exact (ih he).shown he _
    | hit matched groups =>
      rw [replaceTags_hit]
      exact (asks_resolve he _).andThen he fun t f _ _ hf => (ih hf).shown hf _

theorem asks_rawPaint (hreads : e.config.colorTag.readsText = true) (t : Text) :
    Asks e (e.inlineTags t) (e.rawPaint t) := by
  rw [rawPaint_eq hreads, inlineTags_eq]
  exact (asks_replaceTags he _).shown he _

theorem asks_paint (hreads : e.config.colorTag.readsText = true) (t : Text) :
    Asks e (e.inlineTags t ++ [e.config.resetCommand]) (e.paint t) := by
  rw [paint_eq]
  refine (asks_rawPaint he hreads t).andThen he fun painted f _ hsame hf => ?_
  rw [← hsame.1]
  exact (asks_resetSequence hf).shown hf _

end Asks

/-- The expressions that a builder asks for: its own and those of the painting, or the reset command where
there is no text. -/
def styledTags (e : Engine) (x t : Text) : List Text :=
  if t.isEmpty then [e.config.resetCommand] else x :: (e.inlineTags t ++ [e.config.resetCommand])

/-- **A builder asks for the tags of its text and for none of its own sequence,** where tags are the
standard ones. -/
theorem Reachable.asks_paintStyled {e : Engine} (he : e.Reachable)
    (htag : e.config.colorTag = ColorTag.standard) (x t : Text) :
    Asks e (e.styledTags x t) (e.paintStyled x t) := by
  unfold styledTags
  split
  · rename_i hnone
    rw [paintStyled, if_pos hnone]
    exact asks_resetSequence he.coherent
  · rename_i hsome
    rw [e.paintStyled_eq x (hsome ∘ List.isEmpty_iff.2)]
    refine (asks_resolve he.coherent x).andThen he.coherent fun s f hs hsame hf => ?_
    have hstyle : Sgr.IsStyle s := he.isStyle (x := x) (by rw [hs])
    have hpass : ColorTag.standard.scan.PassesOver s t :=
      Pattern.passesOver ColorTag.startsClearOf_standard hstyle.mem_sequenceChars t
    have htags : f.inlineTags (s ++ t) = e.inlineTags t := by
      rw [inlineTags_eq, inlineTags_eq, hsame.1, htag, hpass, expressions_plain_append]
    have hreads : f.config.colorTag.readsText = true := by
      rw [hsame.1, htag, ColorTag.readsText_standard]
    rw [← htags, ← hsame.1]
    exact asks_paint hf hreads (s ++ t)

end Engine
end TermStyle
