/-
# The normal form of a style expression

Three words of a style expression belong to a neighbour: `bright` and `bg` to the word after
them, `off` to the word before it.  The normal form writes such a pair as one word, with a
low line in the place of the blanks between them: `bright red` becomes `bright_red`, and
`bold off` becomes `bold_off`.

| step | from | to | where |
| --- | --- | --- | --- |
| `foldBright` | `bright` and blanks | `bright_` | after no ASCII letter or digit |
| `foldBackground` | `bg` and blanks | `bg_` | after no ASCII letter or digit |
| `foldOff` | blanks and `off` | `_off` | before no ASCII letter or digit |

The low line counts as a boundary, so `bright_bg red` is folded as well.
-/

import TermStyle.Text.Scan

namespace TermStyle
namespace Expression

/-- Finds a modifier word and the blanks after it, where the word does not end a longer one. -/
def modifierScan (word : Text) : Text.Scanner := .unique fun before rest =>
  let blanks := (rest.drop word.length).takeWhile Text.isBlank
  if before.any Char.isAlphanum || !word.isPrefixOf rest || blanks.isEmpty then none
  else some ⟨word.length + blanks.length, []⟩

/-- The word that takes an attribute back. -/
def offWord : Text := "off".toList

/-- Finds blanks and the word `off` after them, where the word does not begin a longer one. -/
def offScan : Text.Scanner := .unique fun _ rest =>
  let blanks := rest.takeWhile Text.isBlank
  let after := rest.drop blanks.length
  if blanks.isEmpty || !offWord.isPrefixOf after ||
      (after.drop offWord.length).head?.any Char.isAlphanum then none
  else some ⟨blanks.length + offWord.length, []⟩

/-- The word that makes a color bright. -/
def brightWord : Text := "bright".toList

/-- The word that turns a color into a background. -/
def backgroundWord : Text := "bg".toList

/-- Joins `bright` to the word after it. -/
def foldBright (t : Text) : Text :=
  Text.replace (modifierScan brightWord) (fun _ _ => brightWord ++ ['_']) t

/-- Joins `bg` to the word after it. -/
def foldBackground (t : Text) : Text :=
  Text.replace (modifierScan backgroundWord) (fun _ _ => backgroundWord ++ ['_']) t

/-- Joins `off` to the word before it. -/
def foldOff (t : Text) : Text := Text.replace offScan (fun _ _ => '_' :: offWord) t

/-- The normal form of a style expression. -/
def normalize (e : Text) : Text := foldOff (foldBackground (foldBright e))

example : normalize "bright  bg red".toList = "bright_bg_red".toList := by decide
example : normalize "Xbright red bold\toff".toList = "Xbright red bold_off".toList := by decide
example : normalize "bold offer".toList = "bold offer".toList := by decide

end Expression
end TermStyle
