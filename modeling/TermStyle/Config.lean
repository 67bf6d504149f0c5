/-
# Configurations

A configuration says how an engine draws.  Each of its settings may be left out; what is given
is checked, in this order, and the first setting that does not fit is reported.

| setting | accepted | default |
| --- | --- | --- |
| `enabled`, `html_tags` | a truth value | false |
| `cache` | a truth value | true |
| `cache_size` | a whole number above zero | 1024 |
| `reset_cmd` | a text | `reset font_0` |
| `color_tag` | a pattern with a group | the standard one |
| `palette` | entries, which an engine checks | none |
-/

import TermStyle.ColorTag
import TermStyle.OrderedMap

namespace TermStyle

/-- How an engine draws. -/
structure Config where
  /-- Whether sequences are emitted. -/
  enabled : Bool
  /-- Whether markup tags are replaced. -/
  htmlTags : Bool
  /-- Whether resolved expressions are kept. -/
  cache : Bool
  /-- How many resolved expressions are kept. -/
  cacheSize : Nat
  /-- The pattern of inline tags. -/
  colorTag : ColorTag
  /-- The style expression before and after painted text. -/
  resetCommand : Text
  /-- The entries that a new engine's palette begins with, not yet checked. -/
  entries : List (Datum × Datum)

namespace Config

/-- The configuration where nothing is given. -/
def standard : Config where
  enabled := false
  htmlTags := false
  cache := true
  cacheSize := 1024
  colorTag := ColorTag.standard
  resetCommand := "reset font_0".toList
  entries := []

/-- The values given for settings. -/
structure Settings where
  /-- For `enabled`. -/
  enabled : Option Datum := none
  /-- For `html_tags`. -/
  htmlTags : Option Datum := none
  /-- For `cache`. -/
  cache : Option Datum := none
  /-- For `cache_size`. -/
  cacheSize : Option Datum := none
  /-- For `color_tag`. -/
  colorTag : Option ColorTag.Given := none
  /-- For `reset_cmd`. -/
  resetCommand : Option Datum := none
  /-- For `palette`. -/
  entries : List (Datum × Datum) := []
  /-- A name that is no setting. -/
  unknown : Option Text := none

/-- Why settings are not accepted. -/
inductive Refusal
  /-- A value is of the wrong kind; `wanted` is the kind that fits, with its article. -/
  | wrongKind (setting wanted : Text) (kind : Datum.Kind)
  /-- The cache size is not above zero. -/
  | notPositive (n : Int)
  /-- The tag pattern is not accepted. -/
  | colorTag (r : ColorTag.Refusal)
  /-- There is no such setting. -/
  | unknown (name : Text)
  deriving DecidableEq, Repr

/-- What is said of a refusal. -/
def Refusal.message : Refusal → Text
  | .wrongKind setting wanted kind =>
    setting ++ " must be ".toList ++ wanted ++ ", got ".toList ++ kind.name
  | .notPositive n =>
    match Datum.asText (.whole n) with
    | .ok written => "cache_size must be positive, got ".toList ++ written
    | .error raised => raised.message
  | .colorTag r => r.message
  | .unknown name =>
    "AnsiConfig.__init__() got an unexpected keyword argument ".toList ++
      [Text.apostrophe] ++ name ++ [Text.apostrophe]

/-- A truth value for a setting. -/
def checkFlag (setting : String) (d : Datum) : Except Refusal Bool :=
  match d with
  | .flag b => .ok b
  | _ => .error (.wrongKind setting.toList "a bool".toList d.kind)

/-- A number of entries for the cache. -/
def checkCacheSize (d : Datum) : Except Refusal Nat :=
  match d with
  | .whole n => if n < 1 then .error (.notPositive n) else .ok n.toNat
  | _ => .error (.wrongKind "cache_size".toList "an int".toList d.kind)

/-- A text for the reset command. -/
def checkResetCommand (d : Datum) : Except Refusal Text :=
  match d with
  | .text t => .ok t
  | _ => .error (.wrongKind "reset_cmd".toList "a str".toList d.kind)

/-- A pattern for inline tags. -/
def checkColorTag (g : ColorTag.Given) : Except Refusal ColorTag :=
  match ColorTag.accept g with
  | .ok p => .ok p
  | .error r => .error (.colorTag r)

/-- What is given for a setting, if it is accepted, or the default. -/
def given {α β : Type} (check : α → Except Refusal β) (default : β) : Option α → Except Refusal β
  | some value => check value
  | none => .ok default

/-- The configuration with the given settings. -/
def ofSettings (s : Settings) : Except Refusal Config := do
  if let some name := s.unknown then .error (.unknown name)
  let enabled ← given (checkFlag "enabled") standard.enabled s.enabled
  let htmlTags ← given (checkFlag "html_tags") standard.htmlTags s.htmlTags
  let cache ← given (checkFlag "cache") standard.cache s.cache
  let cacheSize ← given checkCacheSize standard.cacheSize s.cacheSize
  let resetCommand ← given checkResetCommand standard.resetCommand s.resetCommand
  let colorTag ← given checkColorTag standard.colorTag s.colorTag
  let entries := OrderedMap.ofList s.entries
  return { enabled, htmlTags, cache, cacheSize, colorTag, resetCommand, entries }

end Config
end TermStyle
