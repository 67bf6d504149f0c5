/-
# What the library says about itself

The version, and the names under which scripts know its parts.
-/

import TermStyle.Text.Basic

namespace TermStyle
namespace About

/-- The version of the library. -/
def version : Text := "0.1.0".toList

/-- The names of the public parts, in the order in which they are announced. -/
def publicNames : List Text := [
  "Ansi", "AnsiConfig", "Palette", "StyleBuilder", "EscapeCache", "UnresolvableTokenError",
  "ansi", "paint", "raw_paint", "no_paint", "resolve", "setup", "style", "palette", "normalize",
  "bridge_markup", "build_attribute_table", "NAMED_ATTRIBUTES", "MARKUP_TAGS"
].map String.toList

end About
end TermStyle
