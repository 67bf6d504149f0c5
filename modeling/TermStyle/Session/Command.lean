/-
# Commands to a session

A command makes an engine, asks one, or works with builders.  It is answered together with the
session after it and what engines told meanwhile.

| command | session after it |
| --- | --- |
| `create` | one more engine, under its name |
| `ask` | the engine after the request, or a new builder |
| `chain` | the builder after its steps, under its name |
| `apply` | the builder's engine after painting |
| `showBuilder`, `getBuilder` | as it was |

A command that names an engine or a builder that is not there leaves the session as it was, and so
does one with an argument that has no text.  So does one that is refused, with two exceptions: painting
that fails half-way has used the cache, and an update of a palette that fails half-way keeps the entries
before the failing pair.
-/

import TermStyle.Session.Basic

namespace TermStyle
namespace Session

/-- A part of a text, or an expression. -/
inductive Argument
  /-- A value. -/
  | datum (d : Datum)
  /-- The builder of a name, by its shown form. -/
  | builder (name : Text)
  /-- The palette of the engine that draws, by its shown form. -/
  | palette

/-- The value that an argument is to an engine. -/
def value (s : Session) (e : Engine) : Argument → Except Fault Datum
  | .datum d => .ok d
  | .builder name =>
    match s.builder name with
    | .error f => .error f
    | .ok (_, b) => .ok (.text b.shown)
  | .palette => .ok (.text e.palette.shown)

/-- The values that arguments are to an engine. -/
def values (s : Session) (e : Engine) : List Argument → Except Fault (List Datum)
  | [] => .ok []
  | a :: more =>
    match s.value e a with
    | .error f => .error f
    | .ok d =>
      match values s e more with
      | .error f => .error f
      | .ok ds => .ok (d :: ds)

/-- The style expression that an argument is. -/
def expression (s : Session) (e : Engine) (a : Argument) : Except Fault Text :=
  match s.value e a with
  | .error f => .error f
  | .ok d => d.asExpression.mapError .raised

/-- The texts of arguments, joined. -/
def joined (s : Session) (e : Engine) (parts : List Argument) : Except Fault Text :=
  match s.values e parts with
  | .error f => .error f
  | .ok ds => (Datum.joinTexts ds).mapError .raised

theorem expression_congr {s u : Session} {e f : Engine} {a : Argument} (h : u.value f a = s.value e a) :
    u.expression f a = s.expression e a := by
  rw [expression, expression, h]

/-- What arguments are to two engines is the same text if they are the same values. -/
theorem joined_congr {s u : Session} {e f : Engine} {parts : List Argument}
    (h : ∀ a ∈ parts, u.value f a = s.value e a) : u.joined f parts = s.joined e parts := by
  have hvalues : u.values f parts = s.values e parts := by
    induction parts with
    | nil => rfl
    | cons a more ih =>
      obtain ⟨ha, hmore⟩ := List.forall_mem_cons.1 h
      rw [values, values, ha, ih hmore]
  rw [joined, joined, hvalues]

/-- Where a new engine has its configuration from. -/
inductive Origin
  /-- Settings of its own. -/
  | settings (settings : Config.Settings)
  /-- The configuration of another engine, which both then share. -/
  | shared (engine : Text)

/-- A setting that can be asked for. -/
inductive Field
  | enabled | htmlTags | cache | colorTag | resetCommand
  deriving DecidableEq, Repr

/-- What an engine can be asked. -/
inductive Request
  /-- The sequence of an expression. -/
  | resolve (expression : Argument)
  /-- The painted text of arguments. -/
  | paint (parts : List Argument)
  /-- The text of arguments with its tags replaced. -/
  | rawPaint (parts : List Argument)
  /-- The text of arguments without tags and sequences. -/
  | noPaint (parts : List Argument)
  /-- The sequence of the reset command. -/
  | resetSequence
  /-- Enable rendering. -/
  | setup
  /-- The shown form. -/
  | shown
  /-- Change a setting. -/
  | set (setting : Engine.Setting)
  /-- The value of a setting. -/
  | get (field : Field)
  /-- The configuration. -/
  | config
  /-- A request to the palette. -/
  | palette (request : Palette.Request)
  /-- Make a builder with the words of keywords, under a name. -/
  | style (name : Text) (keywords : List Datum)

/-- One command to a session. -/
inductive Command
  /-- Make an engine under a name. -/
  | create (name : Text) (origin : Origin)
  /-- Ask an engine. -/
  | ask (engine : Text) (request : Request)
  /-- Take a builder some steps further and keep the result under a name. -/
  | chain (source : Text) (steps : List Builder.Step) (name : Text)
  /-- Paint the text of arguments with a builder, for its engine. -/
  | apply (builder : Text) (parts : List Argument)
  /-- The shown form of a builder. -/
  | showBuilder (name : Text)
  /-- The builder itself. -/
  | getBuilder (name : Text)

/-- What a session answers. -/
inductive Answer
  /-- It is done. -/
  | done
  /-- A text. -/
  | text (t : Text)
  /-- Yes or no. -/
  | flag (b : Bool)
  /-- A tag pattern. -/
  | pattern (tag : ColorTag)
  /-- A configuration. -/
  | config (c : Config)
  /-- What a palette answers. -/
  | palette (reply : Palette.Reply)
  /-- A builder. -/
  | builder (b : Builder)

/-- What comes of a command: the session after it, what was told meanwhile, and the answer. -/
structure Outcome where
  /-- The session after the command. -/
  session : Session
  /-- What engines told, in order. -/
  log : List LogRecord
  /-- The answer. -/
  answer : Except Fault Answer

/-- The outcome of a command that leaves the session as it was. -/
def reply (s : Session) (answer : Except Fault Answer) : Outcome := ⟨s, [], answer⟩

/-- The outcome of drawing with the engine of a number. -/
def drawn (s : Session) (number : Nat) :
    Except Engine.Refusal Text × Engine → Outcome
  | (.ok t, e) => ⟨s.store number e, [], .ok (.text t)⟩
  | (.error r, e) => ⟨s.store number e, [], .error (.engine r)⟩

/-- Makes an engine under a name. -/
def create (s : Session) (name : Text) : Origin → Outcome
  | .settings settings =>
    match Config.ofSettings settings with
    | .error r => s.reply (.error (.engine (.config r)))
    | .ok config =>
      match Engine.new config with
      | .error r => s.reply (.error (.engine r))
      | .ok e =>
        let more := { s with configs := s.configs ++ [config] }
        ⟨more.addEngine name s.configs.length e, [], .ok (.text e.shown)⟩
  | .shared other =>
    match s.engine other with
    | .error f => s.reply (.error f)
    | .ok (number, shared) =>
      match s.holdings[number]?, Engine.new shared.config with
      | none, _ => s.reply (.error (.noEngine other))
      | some _, .error r => s.reply (.error (.engine r))
      | some holding, .ok e => ⟨s.addEngine name holding.config e, [], .ok (.text e.shown)⟩

/-- The value of a setting. -/
def field (e : Engine) : Field → Answer
  | .enabled => .flag e.config.enabled
  | .htmlTags => .flag e.config.htmlTags
  | .cache => .flag e.config.cache
  | .colorTag => .pattern e.config.colorTag
  | .resetCommand => .text e.config.resetCommand

/-- What the engine of a number does with a request. -/
def serve (s : Session) (number : Nat) (e : Engine) : Request → Outcome
  | .resolve argument =>
    match s.expression e argument with
    | .error f => s.reply (.error f)
    | .ok x => s.drawn number (e.resolve x)
  | .paint parts =>
    match s.joined e parts with
    | .error f => s.reply (.error f)
    | .ok t => s.drawn number (e.paint t)
  | .rawPaint parts =>
    match s.joined e parts with
    | .error f => s.reply (.error f)
    | .ok t => s.drawn number (e.rawPaint t)
  | .noPaint parts =>
    match s.joined e parts with
    | .error f => s.reply (.error f)
    | .ok t => s.reply ((e.unpaint t).map .text |>.mapError .engine)
  | .resetSequence => s.drawn number e.resetSequence
  | .setup =>
    let (after, log) := e.setup
    ⟨s.store number after, log, .ok .done⟩
  | .shown => s.reply (.ok (.text e.shown))
  | .set setting =>
    let (after, log, answer) := e.set setting
    ⟨s.store number after, log,
      match answer with
      | .ok () => .ok .done
      | .error r => .error (.engine r)⟩
  | .get f => s.reply (.ok (field e f))
  | .config => s.reply (.ok (.config e.config))
  | .palette request =>
    let (after, log, answer) := e.askPalette request
    ⟨s.store number after, log,
      match answer with
      | .ok r => .ok (.palette r)
      | .error r => .error (.engine (.palette r))⟩
  | .style name keywords =>
    match Builder.empty.add keywords with
    | .error r => s.reply (.error (.builder r))
    | .ok b =>
      let more := { s with builders := s.builders.put name (number, b) }
      more.reply (.ok (.builder b))

/-- Carries out a command. -/
def execute (s : Session) : Command → Outcome
  | .create name origin => s.create name origin
  | .ask name request =>
    match s.engine name with
    | .error f => s.reply (.error f)
    | .ok (number, e) => s.serve number e request
  | .chain source steps name =>
    match s.builder source with
    | .error f => s.reply (.error f)
    | .ok (number, b) =>
      match b.steps steps with
      | .error r => s.reply (.error (.builder r))
      | .ok next =>
        let more := { s with builders := s.builders.put name (number, next) }
        more.reply (.ok (.builder next))
  | .apply name parts =>
    match s.builder name with
    | .error f => s.reply (.error f)
    | .ok (number, b) =>
      match s.engineAt? number with
      | none => s.reply (.error (.noBuilder name))
      | some e =>
        match s.joined e parts with
        | .error f => s.reply (.error f)
        | .ok t => s.drawn number (e.paintStyled b.expression t)
  | .showBuilder name =>
    match s.builder name with
    | .error f => s.reply (.error f)
    | .ok (_, b) => s.reply (.ok (.text b.shown))
  | .getBuilder name =>
    match s.builder name with
    | .error f => s.reply (.error f)
    | .ok (_, b) => s.reply (.ok (.builder b))

/-- The cache of the engine of a name, if there is one. -/
def cacheOf (s : Session) (name : Text) : Option (Cache Text Text) :=
  match s.engine name with
  | .ok (_, e) => some e.cache
  | .error _ => none

/-- The outcomes of commands that are carried out one after another. -/
def run (s : Session) : List Command → List Outcome
  | [] => []
  | c :: more =>
    let outcome := s.execute c
    outcome :: run outcome.session more

end Session
end TermStyle
