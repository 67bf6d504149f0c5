/-
# Markup tags

A few tags of hypertext switch an attribute on and off: `<b>` and `</b>`, `<strong>`, `<i>`,
`<em>`, `<u>`, `<sup>` and `<sub>`.  `bridge` puts the sequence of a known tag in its place,
or consumes the tag where no color is wanted.  Every other text between angle brackets
stays as it is.
-/

import TermStyle.OrderedMap
import TermStyle.Sgr

namespace TermStyle
namespace Markup

/-- A tag name with the sequence for one parameter. -/
def entry (name parameter : String) : Text × Text :=
  (name.toList, Sgr.sequence [parameter.toList])

/-- The known tags, by name, with their sequences. -/
def tags : OrderedMap Text Text := [
  entry "b" "1", entry "/b" "22", entry "strong" "1", entry "/strong" "22",
  entry "i" "3", entry "/i" "23", entry "em" "3", entry "/em" "23",
  entry "u" "4", entry "/u" "24",
  entry "sup" "73", entry "/sup" "75", entry "sub" "74", entry "/sub" "75"
]

/-- Whether a character may stand in the name of a tag. -/
def isNameChar (c : Char) : Bool := c != '<' && c != '>'

/-- Finds tags and marks their names. -/
def scan : Text.Scanner := .unique fun _ rest =>
  match rest with
  | '<' :: body =>
    let name := body.takeWhile isNameChar
    match body.dropWhile isNameChar with
    | '>' :: _ => some ⟨name.length + 2, [some name]⟩
    | _ => none
  | _ => none

/-- What takes the place of a tag. -/
def sequenceOf (colorize : Bool) (matched : Text) (groups : List (Option Text)) : Text :=
  match tags.get? ((groups.headD none).getD []) with
  | some sequence => if colorize then sequence else []
  | none => matched

/-- The text with every known tag replaced by its sequence, or by nothing. -/
def bridge (colorize : Bool) (t : Text) : Text := Text.replace scan (sequenceOf colorize) t

example : bridge false "<b>x</b> <blink>".toList = "x <blink>".toList := by decide
example : bridge true "<<b>".toList = '<' :: Sgr.sequence ["1".toList] := by decide

end Markup
end TermStyle
