/-
# Sessions

A session holds engines and builders under names.  Configurations are kept apart from the
engines that draw by them, for several engines may share one: a setting that is changed through
one of them holds for all.  Palette and cache belong to one engine each.

Engines are numbered in the order in which they are made, and a name stands for the engine made
last under it.  A builder keeps the number of its engine, so it goes on with that engine when
the name is given to another.
-/

import TermStyle.Builder
import TermStyle.Engine.Paint
import TermStyle.Engine.Setting

namespace TermStyle

/-- What an engine has of its own: its palette and its cache. -/
structure Holding where
  /-- The number of the configuration that the engine draws by. -/
  config : Nat
  /-- The engine's palette. -/
  palette : Palette
  /-- The engine's cache. -/
  cache : Cache Text Text

/-- Engines and builders under names. -/
structure Session where
  /-- The configurations, by number. -/
  configs : List Config
  /-- What the engines have of their own, by number. -/
  holdings : List Holding
  /-- The numbers of the engines, by name. -/
  engines : OrderedMap Text Nat
  /-- The builders by name, each with the number of its engine. -/
  builders : OrderedMap Text (Nat × Builder)

namespace Session

/-- The session without engines. -/
def empty : Session := ⟨[], [], [], []⟩

/-- Why a session cannot do what is asked. -/
inductive Fault
  /-- There is no engine of this name. -/
  | noEngine (name : Text)
  /-- There is no builder of this name. -/
  | noBuilder (name : Text)
  /-- An argument has no text. -/
  | raised (r : Raised)
  /-- An engine refuses. -/
  | engine (r : Engine.Refusal)
  /-- A builder refuses. -/
  | builder (r : Builder.Refusal)
  deriving DecidableEq, Repr

/-- What is said of a fault. -/
def Fault.message : Fault → Text
  | .noEngine name => "engine ".toList ++ name
  | .noBuilder name => "builder ".toList ++ name
  | .raised r => r.message
  | .engine r => r.message
  | .builder r => r.message

/-- The engine of a number. -/
def engineAt? (s : Session) (number : Nat) : Option Engine :=
  match s.holdings[number]? with
  | none => none
  | some holding =>
    match s.configs[holding.config]? with
    | none => none
    | some config => some ⟨config, holding.palette, holding.cache⟩

/-- The session after an engine of a number has become another. -/
def store (s : Session) (number : Nat) (e : Engine) : Session :=
  match s.holdings[number]? with
  | none => s
  | some holding =>
    { s with
      configs := s.configs.set holding.config e.config
      holdings := s.holdings.set number ⟨holding.config, e.palette, e.cache⟩ }

/-- The number and the engine of a name. -/
def engine (s : Session) (name : Text) : Except Fault (Nat × Engine) :=
  match s.engines.get? name with
  | none => .error (.noEngine name)
  | some number =>
    match s.engineAt? number with
    | none => .error (.noEngine name)
    | some e => .ok (number, e)

/-- The builder of a name, with the number of its engine. -/
def builder (s : Session) (name : Text) : Except Fault (Nat × Builder) :=
  match s.builders.get? name with
  | none => .error (.noBuilder name)
  | some b => .ok b

/-- The session with one more engine, under a name, that draws by the configuration of a
number. -/
def addEngine (s : Session) (name : Text) (config : Nat) (e : Engine) : Session :=
  { s with
    holdings := s.holdings ++ [⟨config, e.palette, e.cache⟩]
    engines := s.engines.put name s.holdings.length }

end Session
end TermStyle
