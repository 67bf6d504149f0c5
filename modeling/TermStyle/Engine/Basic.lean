/-
# Engines

An engine draws text.  It has a configuration, which says how, a palette of its own, and a
cache of the sequences that it resolved last.

| module | what it holds |
| --- | --- |
| `Engine.Basic` | the engine and what it tells those who watch it |
| `Engine.Paint` | resolving, painting and taking styles out again |
| `Engine.Setting` | settings and the palette, which change an engine |
-/

import TermStyle.Cache
import TermStyle.Config
import TermStyle.Expression.Resolve
import TermStyle.Palette.Request

namespace TermStyle

/-- An engine: how it draws, its own names, and the sequences it keeps. -/
structure Engine where
  /-- How the engine draws. -/
  config : Config
  /-- The names of its own. -/
  palette : Palette
  /-- The sequences of the expressions that were resolved last. -/
  cache : Cache Text Text

/-- What an engine tells those who watch it. -/
inductive LogRecord
  /-- An entry of the palette was written or removed. -/
  | palette (change : Palette.Change)
  /-- The cache was cleared. -/
  | cacheCleared
  /-- Rendering was switched on or off. -/
  | rendering (enabled : Bool)
  deriving DecidableEq, Repr

namespace LogRecord

/-- The part of the library that a record is about. -/
def channel : LogRecord → Text
  | .palette _ => "palette".toList
  | .cacheCleared => "cache".toList
  | .rendering _ => "painter".toList

/-- What a record says. -/
def message : LogRecord → Text
  | .palette (.set name value) =>
    "palette ".toList ++ Text.quoted name ++ " set to ".toList ++ Text.quoted value
  | .palette (.removed name) => "palette ".toList ++ Text.quoted name ++ " removed".toList
  | .cacheCleared => "escape cache cleared".toList
  | .rendering true => "rendering enabled".toList
  | .rendering false => "rendering disabled".toList

end LogRecord

namespace Engine

/-- Why an engine does not do what is asked of it. -/
inductive Refusal
  /-- A setting is not accepted. -/
  | config (r : Config.Refusal)
  /-- The cache cannot be made. -/
  | cache (r : Cache.Refusal)
  /-- The palette refuses. -/
  | palette (r : Palette.Refusal)
  /-- An expression does not resolve. -/
  | unresolvable (u : Expression.Unresolvable)
  /-- No text can be searched with the tag pattern. -/
  | unreadable
  deriving DecidableEq, Repr

/-- What is said of a refusal. -/
def Refusal.message : Refusal → Text
  | .config r => r.message
  | .cache r => r.message
  | .palette r => r.message
  | .unresolvable u => u.message
  | .unreadable => "cannot use a bytes pattern on a string-like object".toList

/-- A new engine with a configuration. -/
def new (config : Config) : Except Refusal Engine :=
  match Cache.make (some config.cacheSize) with
  | .error r => .error (.cache r)
  | .ok cache =>
    match Palette.ofEntries config.entries with
    | .error r => .error (.palette r)
    | .ok palette => .ok ⟨config, palette, cache⟩

/-- The engine with an empty cache. -/
def clearCache (e : Engine) : Engine := { e with cache := e.cache.clear }

/-- The shown form of an engine. -/
def shown (e : Engine) : Text :=
  "Ansi(enabled=".toList ++ Datum.flagText e.config.enabled ++ ", html_tags=".toList ++
    Datum.flagText e.config.htmlTags ++ ", cache=".toList ++ Datum.flagText e.config.cache ++ [')']

end Engine
end TermStyle
