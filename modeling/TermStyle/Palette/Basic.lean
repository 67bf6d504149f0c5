/-
# Palettes

A palette gives names of its own to SGR parameters.  A name is a single word; a value
consists of parameter characters, and the empty value keeps a name but switches it off.

Entries keep their order: writing under a name that is there keeps its place, and a name that
was removed and is written again goes to the end.  A new palette is made from a list of entries
at once, and refused as a whole where one of them does not fit.

Names and values come from outside as values of any kind, so both are checked wherever they are
written; `checkName_eq_ok_iff` and `checkValue_eq_ok_iff` say what passes.  A name that is only looked
up is not checked: a value that is no text is absent, unless it is of a kind that cannot be looked up
(`find`).
-/

import TermStyle.Datum
import TermStyle.OrderedMap
import TermStyle.Sgr

namespace TermStyle

/-- Names with their SGR parameters, in the order in which the names came in. -/
abbrev Palette := OrderedMap Text Text

namespace Palette

/-- Why a palette does not do what is asked of it.  Names are kept in their shown form. -/
inductive Refusal
  /-- The name is no text. -/
  | nameKind (kind : Datum.Kind)
  /-- The name is not a single word. -/
  | nameForm (name : Text)
  /-- The value is no text. -/
  | valueKind (name : Text) (kind : Datum.Kind)
  /-- The value has other characters than those of parameters. -/
  | valueForm (name value : Text)
  /-- The name is of a kind that cannot be looked up. -/
  | unhashable (kind : Datum.Kind)
  /-- There is no entry of this name. -/
  | absent (name : Text)
  /-- There is no entry at all. -/
  | empty
  deriving DecidableEq, Repr

/-- What is said of a refusal. -/
def Refusal.message : Refusal → Text
  | .nameKind kind => "palette name must be a str, got ".toList ++ kind.name
  | .nameForm name => "palette name must be a single non-empty word, got ".toList ++ name
  | .valueKind name kind =>
    "palette value for ".toList ++ name ++ " must be a str, got ".toList ++ kind.name
  | .valueForm name value =>
    "palette value for ".toList ++ name ++ " must be raw SGR parameters, got ".toList ++
      Text.quoted value
  | .unhashable kind => "unhashable type: ".toList ++ Text.quoted kind.name
  | .absent name => name
  | .empty => []

/-- A change of one entry. -/
inductive Change
  /-- A value was written under a name. -/
  | set (name value : Text)
  /-- The entry of a name was removed. -/
  | removed (name : Text)
  deriving DecidableEq, Repr

/-- The name that a value is, if it may be one. -/
def checkName (name : Datum) : Except Refusal Text :=
  match name with
  | .text t => if Text.words t = [t] then .ok t else .error (.nameForm (Text.quoted t))
  | _ => .error (.nameKind name.kind)

/-- The parameters that a value is, if a palette may hold it. -/
def checkValue (name value : Datum) : Except Refusal Text :=
  match value with
  | .text t => if Sgr.isParameters t then .ok t else .error (.valueForm name.shown t)
  | _ => .error (.valueKind name.shown value.kind)

/-- **A name is a text that is its only word.** -/
theorem checkName_eq_ok_iff {name : Datum} {n : Text} :
    checkName name = .ok n ↔ name = .text n ∧ Text.words n = [n] := by
  cases name with
  | text t =>
    by_cases h : Text.words t = [t]
    · simp only [checkName, h, if_true, Except.ok.injEq, Datum.text.injEq]
      exact ⟨fun e => ⟨e, e ▸ h⟩, fun e => e.1⟩
    · simp only [checkName, h, if_false, Datum.text.injEq, reduceCtorEq, false_iff]
      rintro ⟨rfl, hw⟩
      exact h hw
  | _ => simp [checkName]

/-- **A value is a text of parameter characters,** whatever the name. -/
theorem checkValue_eq_ok_iff {name value : Datum} {v : Text} :
    checkValue name value = .ok v ↔
      value = .text v ∧ ∀ c ∈ v, Sgr.isParameterChar c = true := by
  cases value with
  | text t =>
    by_cases h : Sgr.isParameters t = true
    · simp only [checkValue, h, if_true, Except.ok.injEq, Datum.text.injEq]
      exact ⟨fun e => ⟨e, e ▸ Sgr.isParameters_iff.1 h⟩, fun e => e.1⟩
    · simp only [checkValue, h, Bool.false_eq_true, if_false, Datum.text.injEq, reduceCtorEq, false_iff]
      rintro ⟨rfl, hc⟩
      exact h (Sgr.isParameters_iff.2 hc)
  | _ => simp [checkValue]

/-- The palette with more entries.  Of an entry that is wrong twice, the value is found out
first. -/
def addEntries : Palette → List (Datum × Datum) → Except Refusal Palette
  | p, [] => .ok p
  | p, (name, value) :: more =>
    match checkValue name value with
    | .error r => .error r
    | .ok v =>
      match checkName name with
      | .error r => .error r
      | .ok n => addEntries (p.put n v) more

/-- A new palette with the given entries. -/
def ofEntries (entries : List (Datum × Datum)) : Except Refusal Palette := addEntries [] entries

/-- The value under a name; a name that is no text is absent. -/
def lookup (p : Palette) (name : Datum) : Option Text :=
  match name with
  | .text t => p.get? t
  | _ => none

/-- Whether a name can be looked up: lists and records cannot. -/
def isHashable : Datum → Bool
  | .list _ | .record _ => false
  | _ => true

/-- The value under a name that is looked up. -/
def find (p : Palette) (name : Datum) : Except Refusal (Option Text) :=
  if isHashable name then .ok (p.lookup name) else .error (.unhashable name.kind)

/-- Whether the palette has exactly the given entries, in any order. -/
def sameAs (p : Palette) (entries : List (Datum × Datum)) : Bool :=
  let other := OrderedMap.ofList entries
  other.length == p.length && other.all fun e =>
    match p.lookup e.1, e.2 with
    | some v, .text w => v == w
    | _, _ => false

/-- The shown form of a palette. -/
def shown (p : Palette) : Text :=
  "Palette(".toList ++ (Datum.record (p.map fun e => (e.1, .text e.2))).shown ++ [')']

end Palette
end TermStyle
