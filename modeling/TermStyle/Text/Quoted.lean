/-
# Quoted text

Messages show a text between quotation marks, so that its ends and its invisible
characters can be seen.

| character | shown as |
| --- | --- |
| the mark in use, the backslash | after a backslash |
| tab, line feed, carriage return | `\t`, `\n`, `\r` |
| another character that is not printable | `\xhh`, `\uhhhh` or `\Uhhhhhhhh` |
| any other | itself |

The mark is the apostrophe, unless the text has an apostrophe and no double mark; then
the double mark saves the escape.

Bytes are shown in the same way behind a letter `b`, each byte as a character, and only those of
ASCII as themselves.
-/

import TermStyle.Text.Basic
import TermStyle.Text.Printable

namespace TermStyle
namespace Text

/-- The single quotation mark. -/
def apostrophe : Char := '\x27'

/-- The double quotation mark. -/
def doubleMark : Char := '\x22'

/-- The character that escapes another. -/
def backslash : Char := '\x5c'

/-- The mark a text is quoted with. -/
def quotationMark (t : Text) : Char :=
  if t.contains apostrophe && !t.contains doubleMark then doubleMark else apostrophe

/-- The hexadecimal digits of a number, in small letters, with zeros up to a width. -/
def hexadecimal (width n : Nat) : Text :=
  let ds := Nat.toDigits 16 n
  List.replicate (width - ds.length) '0' ++ ds

/-- A character as it stands between two marks. -/
def escaped (mark c : Char) : Text :=
  if c == mark || c == backslash then [backslash, c]
  else if c == '\t' then [backslash, 't']
  else if c == '\n' then [backslash, 'n']
  else if c == '\r' then [backslash, 'r']
  else if isPrintable c then [c]
  else if c.toNat < 0x100 then backslash :: 'x' :: hexadecimal 2 c.toNat
  else if c.toNat < 0x10000 then backslash :: 'u' :: hexadecimal 4 c.toNat
  else backslash :: 'U' :: hexadecimal 8 c.toNat

/-- A text between quotation marks. -/
def quoted (t : Text) : Text :=
  let mark := quotationMark t
  mark :: t.flatMap (escaped mark) ++ [mark]

/-- Bytes between quotation marks. -/
def quotedBytes (bytes : List UInt8) : Text :=
  let t := bytes.map fun b => Char.ofNat b.toNat
  let mark := quotationMark t
  let shown (c : Char) : Text :=
    if c.toNat < 0x7f then escaped mark c else backslash :: 'x' :: hexadecimal 2 c.toNat
  'b' :: mark :: t.flatMap shown ++ [mark]

example : quoted "a\t\u00ad".toList = apostrophe :: "a\\t\\xad".toList ++ [apostrophe] := by decide
example : quoted [apostrophe] = [doubleMark, apostrophe, doubleMark] := by decide
example : quotedBytes [0x61, 0xe9] = 'b' :: apostrophe :: "a\\xe9".toList ++ [apostrophe] := by decide

end Text
end TermStyle
