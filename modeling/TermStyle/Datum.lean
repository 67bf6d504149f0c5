/-
# Loosely typed values

Settings, palette names, palette values, style keywords and texts come from outside as
values of any kind.  A `Datum` is such a value; the library accepts the kinds that fit and
names the others in its messages.

A value also has a text of its own, which is what it contributes where any value may stand
in for text, and a shown form, in which a text stands between quotation marks.  Not every value has
a text: a whole number must not have too many digits, and an object of a class of its own can raise
an error when it is asked for one, also where it stands in a list or in a record.
-/

import TermStyle.Fraction
import TermStyle.Text.Quoted

namespace TermStyle

/-- An error that is raised outside the library: its class and what it says. -/
structure Raised where
  /-- The name of its class. -/
  kind : Text
  /-- What it says. -/
  message : Text
  deriving DecidableEq, Repr

/-- An object of a class that the library knows nothing of. -/
structure Object where
  /-- The name of its class. -/
  className : Text
  /-- Its shown form, or what is raised when it is asked for one. -/
  shown : Except Raised Text
  /-- Its text, or what is raised when it is asked for one. -/
  text : Except Raised Text

/-- A value of any kind. -/
inductive Datum
  /-- No value. -/
  | nothing
  /-- A truth value. -/
  | flag (b : Bool)
  /-- A whole number. -/
  | whole (n : Int)
  /-- A number with a fraction. -/
  | fraction (f : Fraction)
  /-- A text. -/
  | text (t : Text)
  /-- A list of values. -/
  | list (items : List Datum)
  /-- Values under names. -/
  | record (members : List (Text × Datum))
  /-- Any other object. -/
  | object (o : Object)
  deriving Inhabited

namespace Datum

/-- The kinds of values. -/
inductive Kind
  | nothing | flag | whole | fraction | text | list | record
  /-- A class of its own. -/
  | object (className : Text)
  deriving DecidableEq, Repr

/-- The kind of a value. -/
def kind : Datum → Kind
  | .nothing => .nothing
  | .flag _ => .flag
  | .whole _ => .whole
  | .fraction _ => .fraction
  | .text _ => .text
  | .list _ => .list
  | .record _ => .record
  | .object o => .object o.className

/-- What messages call a kind. -/
def Kind.name : Kind → Text
  | .nothing => "NoneType".toList
  | .flag => "bool".toList
  | .whole => "int".toList
  | .fraction => "float".toList
  | .text => "str".toList
  | .list => "list".toList
  | .record => "dict".toList
  | .object className => className

/-- The text of a truth value. -/
def flagText (b : Bool) : Text := if b then "True".toList else "False".toList

mutual

/-- The shown form of a value, with text between quotation marks; nothing stands for an object that has
none. -/
def shown : Datum → Text
  | .nothing => "None".toList
  | .flag b => flagText b
  | .whole n => Text.decimal n
  | .fraction f => f.text
  | .text t => Text.quoted t
  | .list items => '[' :: List.intercalate [',', ' '] (shownItems items) ++ [']']
  | .record members => '\x7b' :: List.intercalate [',', ' '] (shownMembers members) ++ ['\x7d']
  | .object o => o.shown.toOption.getD []

/-- The shown forms of the items of a list. -/
def shownItems : List Datum → List Text
  | [] => []
  | d :: more => shown d :: shownItems more

/-- The shown forms of the members of a record. -/
def shownMembers : List (Text × Datum) → List Text
  | [] => []
  | (name, d) :: more => (Text.quoted name ++ ':' :: ' ' :: shown d) :: shownMembers more

end

/-- How many digits a whole number may have where it is turned into text. -/
def maxDigits : Nat := 4300

/-- What is raised where a whole number has more digits. -/
def tooManyDigits : Raised where
  kind := "ValueError".toList
  message := "Exceeds the limit (".toList ++ Text.digits maxDigits ++
    " digits) for integer string conversion; use sys.set_int_max_str_digits() to increase the limit".toList

mutual

/-- What is raised where a value is shown, if there is something in it that cannot be. -/
def unshown? : Datum → Option Raised
  | .whole n => if maxDigits < (Text.digits n.natAbs).length then some tooManyDigits else none
  | .list items => unshownItem? items
  | .record members => unshownMember? members
  | .object o =>
    match o.shown with
    | .ok _ => none
    | .error r => some r
  | _ => none

/-- What is raised for the first item of a list that cannot be shown. -/
def unshownItem? : List Datum → Option Raised
  | [] => none
  | d :: more =>
    match unshown? d with
    | some r => some r
    | none => unshownItem? more

/-- What is raised for the first member of a record that cannot be shown. -/
def unshownMember? : List (Text × Datum) → Option Raised
  | [] => none
  | (_, d) :: more =>
    match unshown? d with
    | some r => some r
    | none => unshownMember? more

end

/-- The text that a value contributes where any value may stand in for text. -/
def asText : Datum → Except Raised Text
  | .text t => .ok t
  | .object o => o.text
  | d =>
    match d.unshown? with
    | some r => .error r
    | none => .ok d.shown

/-- The text of a value as a style expression: no value is the empty expression. -/
def asExpression : Datum → Except Raised Text
  | .nothing => .ok []
  | d => d.asText

/-- **A value is an expression if it has a text,** and otherwise the same error is raised. -/
theorem asExpression_cases (d : Datum) :
    (∃ x t, d.asExpression = .ok x ∧ d.asText = .ok t) ∨
      ∃ r, d.asExpression = .error r ∧ d.asText = .error r := by
  cases d with
  | nothing => exact .inl ⟨[], _, rfl, rfl⟩
  | flag | whole | fraction | text | list | record | object =>
    unfold asExpression
    split <;> rename_i hkind
    · cases hkind
    · cases asText _ with
      | ok t => exact .inl ⟨t, t, rfl, rfl⟩
      | error r => exact .inr ⟨r, rfl, rfl⟩

/-- The texts of values, joined.  The first value that has none ends it. -/
def joinTexts : List Datum → Except Raised Text
  | [] => .ok []
  | d :: more =>
    match d.asText with
    | .error r => .error r
    | .ok t =>
      match joinTexts more with
      | .error r => .error r
      | .ok behind => .ok (t ++ behind)

/-- The number that a value counts as; the truth values count as 0 and 1. -/
def number? : Datum → Option Rat
  | .flag b => some (if b then 1 else 0)
  | .whole n => some n
  | .fraction f => some f.value
  | _ => none

/-- Whether two values are one name: equal texts, equal numbers, or no value twice. -/
def sameName : Datum → Datum → Bool
  | .nothing, .nothing => true
  | .text s, .text t => s == t
  | a, b =>
    match a.number?, b.number? with
    | some m, some n => m == n
    | _, _ => false

/-- Values are compared as names. -/
instance : BEq Datum := ⟨sameName⟩

example : sameName (.flag true) (.fraction ⟨false, 10, -1⟩) ∧ ¬ sameName (.whole 1) (.text ['1']) ∧
    ¬ sameName (.whole (10 ^ 23)) (.fraction ⟨false, 1, 23⟩) := by decide +kernel
example : (asText (.flag true)).toOption = some "True".toList ∧
    (asExpression .nothing).toOption = some [] := by decide

end Datum

end TermStyle
