/-
# Matching

A pattern matches by trying: it takes the first way that lets everything after it match as
well, and goes back to the next way where that fails.  `Node.run` has what comes after as an
argument, `next`, so going back is a failed call and nothing else; it recurses on the tree.

| node | ways, in the order they are tried |
| --- | --- |
| `either a b` | those of `a`, then those of `b` |
| `loop` greedy | one round more, then going on |
| `loop` lazy | going on, then one round more |

A round of a loop beyond the least number that took no character is the last one: another
would find the same place again.  So a loop makes at most one round more than there are
characters left, which bounds its recursion: the characters left serve as a clock.

A loop over single characters has nothing to go back into.  It lists the places that it can reach
and tries them in turn, the farthest first (`reach`) or the nearest first (`nearest`).

`scan` makes a scanner of a pattern.  Where fewer characters are left than every match takes
(`Node.least`) nothing is tried.  A hit of an unwelcome length counts as a failure of what
comes last, so the pattern goes back and tries its other ways.
-/

import TermStyle.Pattern.Basic
import TermStyle.Text.Scan

namespace TermStyle
namespace Pattern

/-- A place of the text during a match. -/
structure Place where
  /-- How many characters have been taken. -/
  taken : Nat
  /-- The character before the place. -/
  before : Option Char
  /-- The text from the place on. -/
  rest : Text

/-- Whether exactly one of the characters around a place is a word character. -/
def Place.isEdge (p : Place) : Bool :=
  p.before.any Text.isWordChar != p.rest.head?.any Text.isWordChar

/-- Whether a condition holds at a place. -/
def Anchor.holds (a : Anchor) (p : Place) : Bool :=
  match a with
  | .start => p.before.isNone
  | .lineEnd => p.rest.isEmpty || p.rest == ['\n']
  | .stop => p.rest.isEmpty
  | .boundary => p.isEdge
  | .inside => !p.isEdge && !(p.before.isNone && p.rest.isEmpty)

/-- Where the text of a group begins and ends. -/
structure Capture where
  /-- The number of the group. -/
  index : Nat
  /-- How many characters come before it. -/
  start : Nat
  /-- How many characters come before its end. -/
  stop : Nat

/-- The groups that took part, the latest first. -/
abbrev Captures := List Capture

/-- What is still to be matched after a node. -/
abbrev Next := Place → Captures → Option Text.Hit

/-- A way to match something and then go on. -/
abbrev Matcher := Next → Next

/-- Goes one character on, if it is a welcome one. -/
def step (welcome : Char → Bool) : Matcher := fun next p g =>
  match p.rest with
  | [] => none
  | c :: rest => if welcome c then next ⟨p.taken + 1, some c, rest⟩ g else none

/-- Tries one way and, only where it fails, another. -/
@[macro_inline] def orElse (first second : Option Text.Hit) : Option Text.Hit :=
  match first with
  | some h => some h
  | none => second

/-- So many rounds. -/
def rounds (round : Matcher) : Nat → Matcher
  | 0, next => next
  | n + 1, next => round (rounds round n next)

/-- Whether a limit, if there is one, is used up. -/
def spent (limit : Option Nat) : Bool := limit == some 0

/-- A limit after one round. -/
def spend (limit : Option Nat) : Option Nat := limit.map (· - 1)

/-- Further rounds, as many as the limit and the clock have, none after a round that took nothing;
`last` is where the round before began. -/
def further (round : Matcher) (greedy : Bool) (next : Next) : Text → Option Nat → Option Nat → Next
  | [], _, _, p, g => next p g
  | _ :: clock, limit, last, p, g =>
    if spent limit || last == some p.taken then next p g
    else if greedy then
      orElse (round (further round greedy next clock (spend limit) (some p.taken)) p g) (next p g)
    else orElse (next p g) (round (further round greedy next clock (spend limit) (some p.taken)) p g)

/-- The place so many characters on, if they are all of a class. -/
def Place.advance (w : Char → Bool) : Nat → Place → Option Place
  | 0, p => some p
  | n + 1, p =>
    match p.rest with
    | [] => none
    | c :: rest => if w c then Place.advance w n ⟨p.taken + 1, some c, rest⟩ else none

/-- The places that are reached over characters of a class, within a limit, the farthest first,
put in front of other places.  The first one has the given text left. -/
def reach (w : Char → Bool) :
    Text → Option Nat → (taken : Nat) → (before : Option Char) → List Place → List Place
  | [], _, taken, before, nearer => ⟨taken, before, []⟩ :: nearer
  | c :: rest, limit, taken, before, nearer =>
    if !spent limit && w c then
      reach w rest (spend limit) (taken + 1) (some c) (⟨taken, before, c :: rest⟩ :: nearer)
    else ⟨taken, before, c :: rest⟩ :: nearer

/-- What follows matches from the nearest place it can that is reached over characters of a class,
within a limit.  The first one has the given text left. -/
def nearest (w : Char → Bool) (next : Next) (g : Captures) :
    Text → Option Nat → (taken : Nat) → (before : Option Char) → Option Text.Hit
  | [], _, taken, before => next ⟨taken, before, []⟩ g
  | c :: rest, limit, taken, before =>
    match next ⟨taken, before, c :: rest⟩ g with
    | some h => some h
    | none =>
      if !spent limit && w c then nearest w next g rest (spend limit) (taken + 1) (some c) else none

/-- A loop over single characters of a class: so many of them, and more within a limit. -/
def stretch (w : Char → Bool) (least : Nat) (limit : Option Nat) (greedy : Bool) : Matcher :=
  fun next p g =>
    match p.advance w least with
    | none => none
    | some q =>
      if greedy then (reach w q.rest limit q.taken q.before []).findSome? fun r => next r g
      else nearest w next g q.rest limit q.taken q.before

/-- The place after the leading characters of a class. -/
def Place.skip (p : Place) (w : Char → Bool) : Place :=
  let run := p.rest.takeWhile w
  ⟨p.taken + run.length, (run.getLast?).or p.before, p.rest.dropWhile w⟩

/-- Where the run of a class begins with a character of it, it goes on after that. -/
theorem Place.skip_cons {w : Char → Bool} {c : Char} (hw : w c = true) (taken : Nat)
    (before : Option Char) (rest : Text) :
    Place.skip ⟨taken, before, c :: rest⟩ w = Place.skip ⟨taken + 1, some c, rest⟩ w := by
  have hb : (c :: rest.takeWhile w).getLast? = (rest.takeWhile w).getLast?.or (some c) := by
    cases h : rest.takeWhile w <;> simp [List.getLast?_cons]
  simp [Place.skip, hw, hb, Nat.add_assoc, Nat.add_comm 1]

/-- What is found among the places of a run, where nothing is found inside it. -/
theorem findSome?_reach {w : Char → Bool} {f : Place → Option Text.Hit}
    (hf : ∀ p c r, p.rest = c :: r → w c = true → f p = none) (rest : Text) (taken : Nat)
    (before : Option Char) (nearer : List Place) :
    (reach w rest none taken before nearer).findSome? f =
      (f (Place.skip ⟨taken, before, rest⟩ w)).or (nearer.findSome? f) := by
  have here (p : Place) (nearer : List Place) :
      (p :: nearer).findSome? f = (f p).or (nearer.findSome? f) := by
    cases h : f p <;> simp [h]
  induction rest generalizing taken before nearer with
  | nil => simp [reach, here, Place.skip]
  | cons c rest ih =>
    by_cases hw : w c = true
    · have hnone := hf ⟨taken, before, c :: rest⟩ c rest rfl hw
      simp [reach, spent, spend, hw, ih, Place.skip_cons, hnone]
    · simp [reach, spent, hw, here, Place.skip]

/-- **A greedy loop over a class takes the whole run,** where what follows cannot begin inside the
class: giving a character back would never help. -/
theorem stretch_greedy {w : Char → Bool} {next : Next}
    (hnext : ∀ p g c r, p.rest = c :: r → w c = true → next p g = none) (p : Place) (g : Captures) :
    stretch w 0 none true next p g = next (p.skip w) g := by
  obtain ⟨taken, before, rest⟩ := p
  simp only [stretch, Place.advance, if_true]
  rw [findSome?_reach fun p c r => hnext p g c r]
  simp

/-- The set of a node that takes exactly one character. -/
def Node.single? : Node CharSet → Option CharSet
  | .one set => some set
  | _ => none

/-- How a node matches. -/
def Node.run : Node CharSet → Next → Place → Captures → Option Text.Hit
  | .empty, next, p, g => next p g
  | .one set, next, p, g => step set.has next p g
  | .anchor a, next, p, g => if a.holds p then next p g else none
  | .seq first second, next, p, g =>
    first.run (fun q h => second.run next q h) p g
  | .either first second, next, p, g =>
    orElse (first.run next p g) (second.run next p g)
  | .group index body, next, p, g =>
    body.run (fun q h => next q (⟨index, p.taken, q.taken⟩ :: h)) p g
  | .loop least most greedy body, next, p, g =>
    let limit := most.map (· - least)
    match body.single? with
    | some set => stretch set.has least limit greedy next p g
    | none =>
      rounds (body.run) least
        (fun q h => further (body.run) greedy next (' ' :: q.rest) limit none q h) p g

/-- The least number of characters that a node takes. -/
def Node.least {σ : Type} : Node σ → Nat
  | .empty => 0
  | .one _ => 1
  | .anchor _ => 0
  | .seq first second => first.least + second.least
  | .either first second => min first.least second.least
  | .group _ body => body.least
  | .loop least _ _ body => least * body.least

/-- The text of a group, if it took part; all lie in the text that is given. -/
def Captures.get? (t : Text) : Captures → Nat → Option Text
  | [], _ => none
  | c :: more, index =>
    if c.index = index then some ((t.drop c.start).take (c.stop - c.start))
    else Captures.get? t more index

/-- The texts of the groups from 1 on. -/
def Captures.texts (t : Text) (g : Captures) (groups : Nat) : List (Option Text) :=
  (List.range groups).map fun i => Captures.get? t g (i + 1)

end Pattern

/-- Whether a text has so many characters. -/
def Pattern.hasRoom : Nat → Text → Bool
  | 0, _ => true
  | _ + 1, [] => false
  | n + 1, _ :: rest => hasRoom n rest

/-- Finds what a pattern matches. -/
def Pattern.scan (pattern : Pattern) : Text.Scanner := fun welcome before rest =>
  if Pattern.hasRoom pattern.root.least rest then
    pattern.root.run
      (fun p g =>
        if welcome p.taken then some ⟨p.taken, Pattern.Captures.texts rest g pattern.groups⟩ else none)
      ⟨0, before.head?, rest⟩ []
  else none

end TermStyle
