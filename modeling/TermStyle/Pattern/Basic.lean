/-
# Patterns

A pattern says how inline tags look.  This module holds its syntax tree; `Pattern.Reader`
reads one from its written form, and `Pattern.Match` says what it matches.

| node | written |
| --- | --- |
| `empty` | nothing |
| `one` | `.`, a character, `\d`, `[a-z]`, `[^a-z]` |
| `anchor` | `^`, `$`, `\b`, `\B`, `\A`, `\Z` |
| `seq` | one after another |
| `either` | `a|b` |
| `group` | `(a)`, and `(?P<name>a)` |
| `loop` | `a*`, `a+?`, `a{2,5}` |

A tree says in `one` nodes what a single character may be: the tree that is read says it as it is
written (`Atom`), and the tree of a compiled pattern by sets, in which the options are settled
(`Atom.set`).

A group of the form `(?:a)` is the tree of `a` itself.  Alternatives that differ in one character
only are one set: `ax|ay` is the tree of `a[xy]` (`Node.alternatives`).
-/

import TermStyle.Pattern.CharSet

namespace TermStyle

namespace Pattern

/-- A condition on a place of the text. -/
inductive Anchor
  /-- The place is the beginning of the text. -/
  | start
  /-- The place is the end of the text, or before a line feed that ends it. -/
  | lineEnd
  /-- The place is the end of the text. -/
  | stop
  /-- Exactly one of the characters around the place is a word character. -/
  | boundary
  /-- Both or neither of the characters around the place are word characters. -/
  | inside
  deriving DecidableEq, Repr

/-- The tree of a pattern, where `σ` says what a single character may be. -/
inductive Node (σ : Type)
  /-- Matches the empty text. -/
  | empty
  /-- Matches one character. -/
  | one (what : σ)
  /-- Matches the empty text where the condition holds. -/
  | anchor (a : Anchor)
  /-- Matches two patterns one after the other. -/
  | seq (first second : Node σ)
  /-- Matches one of two patterns, the first by preference. -/
  | either (first second : Node σ)
  /-- Matches a pattern and remembers the text it took. -/
  | group (index : Nat) (body : Node σ)
  /-- Matches a pattern again and again, at least so often and at most so often, as often as
  possible or as seldom as possible by preference. -/
  | loop (least : Nat) (most : Option Nat) (greedy : Bool) (body : Node σ)
  deriving DecidableEq, Repr

/-- What is written for a single character. -/
inductive Atom
  /-- Any one character, a line feed only where the options say so. -/
  | any
  /-- A character that is in the set, or, negated, one that is not. -/
  | oneOf (negated : Bool) (members : List Member)
  deriving DecidableEq, Repr

/-- Options under which a pattern is compiled. -/
structure Options where
  /-- Letters match without regard to case. -/
  ignoreCase : Bool := false
  /-- The dot matches a line feed as well. -/
  dotAll : Bool := false
  deriving DecidableEq, Repr

/-- The characters that may stand where an atom is written. -/
def Atom.set (options : Options) : Atom → CharSet
  | .any => .ofMembers false true (if options.dotAll then [] else [.one '\n'])
  | .oneOf negated members => .ofMembers options.ignoreCase negated members

namespace Node

variable {σ τ : Type}

/-- The same tree, with what a single character may be said in another way. -/
def map (f : σ → τ) : Node σ → Node τ
  | .empty => .empty
  | .one what => .one (f what)
  | .anchor a => .anchor a
  | .seq first second => .seq (first.map f) (second.map f)
  | .either first second => .either (first.map f) (second.map f)
  | .group index body => .group index (body.map f)
  | .loop least most greedy body => .loop least most greedy (body.map f)

/-- Nodes one after another. -/
def sequence : List (Node σ) → Node σ
  | [] => .empty
  | [n] => n
  | n :: more => .seq n (sequence more)

/-- Nodes to choose from, earlier ones by preference. -/
def choice : List (Node σ) → Node σ
  | [] => .empty
  | [n] => n
  | n :: more => .either n (choice more)

/-- The items of a node that stand one after another. -/
def items : Node σ → List (Node σ)
  | .empty => []
  | .seq first second => first.items ++ second.items
  | n => [n]

/-- Whether a node takes at most one character, in at most one way. -/
def isPlain : Node σ → Bool
  | .one _ | .anchor _ => true
  | _ => false

/-- How many plain items all alternatives begin with, one and the others. -/
def sharedLead [DecidableEq σ] : List (Node σ) → List (List (Node σ)) → Nat
  | [], _ => 0
  | n :: more, others =>
    if n.isPlain && others.all fun a => a.head? == some n then
      sharedLead more (others.map List.tail) + 1
    else 0

/-- The members of the set that an alternative is, if it is one. -/
def members? : List (Node Atom) → Option (List Member)
  | [.one (.oneOf false members)] => some members
  | _ => none

/-- A node for alternatives, each a list of items.  Where nothing but a set is left of each of
them after what all begin with, they are one set. -/
def alternatives : List (List (Node Atom)) → Node Atom
  | [] => .empty
  | [a] => sequence a
  | first :: others =>
    let lead := sharedLead first others
    match (first :: others).mapM fun a => members? (a.drop lead) with
    | some sets => sequence (first.take lead ++ [.one (.oneOf false sets.flatten.eraseDups)])
    | none => choice ((first :: others).map sequence)

/-- A node for a single character. -/
def character (c : Char) : Node Atom := .one (.oneOf false [.one c])

example : alternatives [[character 'a', character 'x'], [character 'a', character 'y']] =
    sequence [character 'a', .one (.oneOf false [.one 'x', .one 'y'])] := by decide

end Node
end Pattern

/-- A compiled pattern. -/
structure Pattern where
  /-- The written form. -/
  source : Text
  /-- The options it was compiled under. -/
  options : Pattern.Options
  /-- The tree, with the options settled. -/
  root : Pattern.Node Pattern.CharSet
  /-- How many groups it has. -/
  groups : Nat
  deriving DecidableEq, Repr

end TermStyle
