/-
# Style builders

A builder collects the words of a style one after another, for an engine to paint with.  Each
step gives a new builder, so one that is kept can be extended in several directions.  A keyword
may hold several words, or none.
-/

import TermStyle.Datum

namespace TermStyle

/-- The words of a style. -/
structure Builder where
  /-- The words, in order. -/
  segments : List Text
  deriving DecidableEq, Repr

namespace Builder

/-- Why a builder cannot be extended. -/
inductive Refusal
  /-- A keyword is no text. -/
  | keywordKind (kind : Datum.Kind)
  /-- There is no step of this name. -/
  | unknownStep (name : Text)
  deriving DecidableEq, Repr

/-- What is said of a refusal. -/
def Refusal.message : Refusal → Text
  | .keywordKind kind => "style keyword must be a str, got ".toList ++ kind.name
  | .unknownStep name =>
    Text.apostrophe :: "StyleBuilder".toList ++ Text.apostrophe :: " object has no attribute ".toList ++
      Text.apostrophe :: name ++ [Text.apostrophe]

/-- The builder without words. -/
def empty : Builder := ⟨[]⟩

/-- The builder with the words of more keywords. -/
def add (b : Builder) : List Datum → Except Refusal Builder
  | [] => .ok b
  | .text keyword :: more => add ⟨b.segments ++ Text.words keyword⟩ more
  | d :: _ => .error (.keywordKind d.kind)

/-- The steps that can be taken by name. -/
def stepNames : List String := [
  "bright", "bg", "off",
  "bold", "dim", "italic", "underline", "blink", "inverse", "hide", "strikethrough",
  "fg_black", "fg_red", "fg_green", "fg_yellow", "fg_blue", "fg_magenta", "fg_cyan", "fg_white"
]

/-- A step from one builder to the next. -/
inductive Step
  /-- The step of a name, which adds that name. -/
  | named (name : Text)
  /-- The words of keywords. -/
  | add (keywords : List Datum)

/-- The builder after a step. -/
def step (b : Builder) : Step → Except Refusal Builder
  | .named name =>
    if stepNames.any fun s => s.toList == name then b.add [.text name] else .error (.unknownStep name)
  | .add keywords => b.add keywords

/-- The builder after steps. -/
def steps (b : Builder) : List Step → Except Refusal Builder
  | [] => .ok b
  | s :: more =>
    match b.step s with
    | .error r => .error r
    | .ok next => steps next more

/-- The style expression of the words. -/
def expression (b : Builder) : Text := Text.spaced b.segments

/-- The shown form of a builder. -/
def shown (b : Builder) : Text :=
  "StyleBuilder(".toList ++ Text.quoted b.expression ++ [')']

end Builder
end TermStyle
