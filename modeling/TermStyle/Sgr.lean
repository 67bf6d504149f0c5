/-
# SGR sequences

A terminal changes how it draws text when it reads a select-graphic-rendition sequence: the
escape character, an opening bracket, parameters of digits, colons and semicolons, and the
letter `m`.  `sequence` writes one from a list of parameters, and `scan` finds those that
stand in a text.

No parameters make no sequence: the sequence of an empty list is the empty text, and not
one without parameters, which a terminal would read as a reset.
-/

import TermStyle.Text.Scan

namespace TermStyle
namespace Sgr

/-- The escape character, with which every sequence begins. -/
def escape : Char := '\x1b'

/-- Whether a character may stand between the bracket and the final letter. -/
def isParameterChar (c : Char) : Bool := c.isDigit || c == ':' || c == ';'

/-- The sequence with the given parameters, or nothing where there are none. -/
def sequence : List Text → Text
  | [] => []
  | params => escape :: '[' :: List.intercalate [';'] params ++ ['m']

/-- Finds sequences, also those without parameters. -/
def scan : Text.Scanner := .unique fun _ rest =>
  match rest with
  | e :: '[' :: body =>
    if e = escape then
      match body.dropWhile isParameterChar with
      | 'm' :: _ => some ⟨(body.takeWhile isParameterChar).length + 3, []⟩
      | _ => none
    else none
  | _ => none

/-- The text without its sequences. -/
def strip (t : Text) : Text := Text.strip scan t

/-- Finds runs of parameter characters, the empty run included. -/
def parameterScan : Text.Scanner := .unique fun _ rest =>
  some ⟨(rest.takeWhile isParameterChar).length, []⟩

/-- Whether a text consists of parameter characters alone. -/
def isParameters (t : Text) : Bool := (Text.matchWhole parameterScan t).isSome

/-- **Parameters are exactly the texts of parameter characters.** -/
theorem isParameters_iff {t : Text} : isParameters t = true ↔ ∀ c ∈ t, isParameterChar c = true := by
  have len : (t.takeWhile isParameterChar).length = t.length ↔
      ∀ c ∈ t, isParameterChar c = true := by
    induction t with
    | nil => simp
    | cons c rest ih =>
      by_cases h : isParameterChar c = true
      · simpa [h] using ih
      · simp [h]
  rw [← len]
  simp [isParameters, Text.matchWhole, parameterScan, Text.Scanner.unique, Option.filter]

example : sequence ["1".toList, "31".toList] = escape :: "[1;31m".toList := by decide
example : strip (escape :: "[1ma".toList ++ escape :: "[b".toList) = 'a' :: escape :: "[b".toList := by
  decide

end Sgr
end TermStyle
