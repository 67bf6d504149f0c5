/-
# Style attributes

An attribute is a keyword of style expressions with the SGR parameter it stands for.  A
plain parameter is a number; a compound one has sub-parameters (`4:3`) or further parameters
(`38;5;208`) and is kept as text.  Three reserved words stand for no parameter: they modify
their neighbours (`bright`, `off`) or only read well (`on`).

| keywords | parameter |
| --- | --- |
| `bold`, `fg_red`, `underline_off`, … | their own, in `named` |
| `color0` … `color255` | `38;5;` and the index |
| `rgb000` … `rgb555` | `38;5;` and 16 + 36 red + 6 green + blue |
| `gray0` … `gray23` | `38;5;` and 232 + the step |

Each of the last three also comes with `bg_` in front, for the background (`48`), and with
`underline_` in front, for the color of underlines (`58`).
-/

import TermStyle.Text.Basic
import TermStyle.OrderedMap

namespace TermStyle

/-- An SGR parameter. -/
inductive Parameter
  /-- A plain number. -/
  | plain (code : Int)
  /-- A parameter with parts, as it is written. -/
  | compound (written : Text)
  deriving DecidableEq, Repr

/-- The text of a parameter inside a sequence. -/
def Parameter.text : Parameter → Text
  | .plain code => Text.decimal code
  | .compound written => written

/-- Keywords in order, each with its parameter, or with none where the word is reserved. -/
abbrev AttributeTable := OrderedMap Text (Option Parameter)

namespace Attribute

/-- An attribute with a plain parameter. -/
def plain (name : String) (code : Nat) : Text × Option Parameter := (name.toList, some (.plain code))

/-- An attribute with a compound parameter. -/
def compound (name written : String) : Text × Option Parameter :=
  (name.toList, some (.compound written.toList))

/-- A reserved word. -/
def reserved (name : String) : Text × Option Parameter := (name.toList, none)

/-- The attributes of the text itself. -/
def styles : AttributeTable := [
  plain "reset" 0, plain "normal" 0, plain "bold" 1, plain "bold_off" 22, plain "intense" 1,
  plain "intense_off" 22, plain "faint" 2, plain "faint_off" 22, plain "dim" 2,
  plain "dim_off" 22, plain "italic" 3, plain "italic_off" 23, plain "oblique" 3,
  plain "oblique_off" 23, plain "underline" 4, plain "underline_off" 24, plain "blink" 5,
  plain "blink_off" 25, plain "slow_blink" 5, plain "slow_blink_off" 25, plain "rapid_blink" 6,
  plain "rapid_blink_off" 25, plain "inverse" 7, plain "inverse_off" 27, plain "hide" 8,
  plain "hide_off" 28, plain "conceal" 8, plain "reveal" 28, plain "cross_out" 9,
  plain "cross_out_off" 29, plain "strikethrough" 9, plain "strikethrough_off" 29
]

/-- The fonts. -/
def fonts : AttributeTable := [
  plain "primary_font" 10, plain "font_0" 10, plain "font_1" 11, plain "font_2" 12,
  plain "font_3" 13, plain "font_4" 14, plain "font_5" 15, plain "font_6" 16, plain "font_7" 17,
  plain "font_8" 18, plain "font_9" 19, plain "black_letter" 20, plain "black_letter_off" 23
]

/-- A second underline and proportional spacing. -/
def spacings : AttributeTable := [
  plain "double_underline" 21, plain "double_underline_off" 24, plain "proportional" 26,
  plain "proportional_off" 50
]

/-- The foreground colors. -/
def foregrounds : AttributeTable := [
  plain "fg_black" 30, plain "fg_red" 31, plain "fg_green" 32, plain "fg_yellow" 33,
  plain "fg_brown" 33, plain "fg_blue" 34, plain "fg_magenta" 35, plain "fg_cyan" 36,
  plain "fg_white" 37, plain "fg_default" 39
]

/-- The background colors. -/
def backgrounds : AttributeTable := [
  plain "bg_black" 40, plain "bg_red" 41, plain "bg_green" 42, plain "bg_yellow" 43,
  plain "bg_brown" 43, plain "bg_blue" 44, plain "bg_magenta" 45, plain "bg_cyan" 46,
  plain "bg_white" 47, plain "bg_default" 49
]

/-- Frames and lines around the text. -/
def frames : AttributeTable := [
  plain "frame" 51, plain "frame_off" 54, plain "encircle" 52, plain "encircle_off" 54,
  plain "overline" 53, plain "overline_off" 55, plain "default_underline_color" 59
]

/-- Attributes with sub-parameters, and what takes them back. -/
def refinements : AttributeTable := [
  compound "shadow" "1:2", plain "shadow_off" 22, compound "solid_underline" "4:1",
  plain "solid_underline_off" 24, compound "wavy_underline" "4:3", plain "wavy_underline_off" 24,
  compound "dotted_underline" "4:4", plain "dotted_underline_off" 24,
  compound "dashed_underline" "4:5", plain "dashed_underline_off" 24, compound "overstrike" "8:7",
  plain "overstrike_off" 28, plain "superscript" 73, plain "superscript_off" 75,
  plain "subscript" 74, plain "subscript_off" 75
]

/-- The bright foreground colors. -/
def brightForegrounds : AttributeTable := [
  plain "bright_fg_black" 90, plain "bright_fg_red" 91, plain "bright_fg_green" 92,
  plain "bright_fg_yellow" 93, plain "bright_fg_blue" 94, plain "bright_fg_magenta" 95,
  plain "bright_fg_cyan" 96, plain "bright_fg_white" 97
]

/-- The bright background colors. -/
def brightBackgrounds : AttributeTable := [
  plain "bright_bg_black" 100, plain "bright_bg_red" 101, plain "bright_bg_green" 102,
  plain "bright_bg_yellow" 103, plain "bright_bg_blue" 104, plain "bright_bg_magenta" 105,
  plain "bright_bg_cyan" 106, plain "bright_bg_white" 107
]

/-- The words that modify their neighbours and say nothing alone. -/
def modifiers : AttributeTable := [
  reserved "on", reserved "bright", reserved "off"
]

/-- The attributes with a name of their own. -/
def named : AttributeTable :=
  styles ++ fonts ++ spacings ++ foregrounds ++ backgrounds ++ frames ++ refinements ++
    brightForegrounds ++ brightBackgrounds ++ modifiers

/-- A parameter that chooses a color by its index. -/
def indexed (selector index : Nat) : Option Parameter :=
  some (.compound (Text.digits selector ++ ";5;".toList ++ Text.digits index))

/-- The three attributes for a color of the indexed palette: foreground, background and
underline color. -/
def color (name : Text) (index : Nat) : AttributeTable := [
  (name, indexed 38 index),
  ("bg_".toList ++ name, indexed 48 index),
  ("underline_".toList ++ name, indexed 58 index)
]

/-- The colors that are named by their index. -/
def indexedColors : AttributeTable :=
  (List.range 256).flatMap fun i => color ("color".toList ++ Text.digits i) i

/-- The colors of the cube, named by their red, green and blue coordinates. -/
def cubeColors : AttributeTable :=
  (List.range 6).flatMap fun r => (List.range 6).flatMap fun g => (List.range 6).flatMap fun b =>
    color ("rgb".toList ++ Text.digits r ++ Text.digits g ++ Text.digits b) (16 + r * 36 + g * 6 + b)

/-- The ramp of grays, named by their step. -/
def grays : AttributeTable :=
  (List.range 24).flatMap fun s => color ("gray".toList ++ Text.digits s) (232 + s)

/-- All attributes. -/
def table : AttributeTable := named ++ indexedColors ++ cubeColors ++ grays

example : named.get? "bold_off".toList = some (some (.plain 22)) := by decide

end Attribute

end TermStyle
