/-
# The word lists of builders

A builder that a session keeps under a name has come about by calls: it was made for an engine, or a kept builder
was taken some steps further.  The calls gave keywords, and what was given to each builder can be read off the
commands, without a look at any builder:

| command | given to the builder of its name |
| --- | --- |
| `style`, if the engine is there and all keywords are texts | these texts |
| `chain`, if the builder it goes on from is there and all steps are taken | what was given to that builder, and then the texts of the steps |
| any other, and one that is refused | what was given before |

One command after another, these are the texts that builders are given (`givenAlong`).  Each command keeps it
that a builder is the list of their words (`AsGiven.execute`), so it is one in every session (`AsGiven.after`).
A call with a keyword that is no text is refused, and commands that follow it are carried out as if it had not been
made (`run_of_find?`).
-/

import TermStyle.Proofs.Builder.Words
import TermStyle.Proofs.Session.Independence

namespace TermStyle

set_option maxRecDepth 4000

namespace Session

/-- The texts that builders have been given, under their names, with the numbers of their engines. -/
abbrev Given := OrderedMap Text (Nat × List Text)

/-- What builders have been given after one more command. -/
def givenAfter (s : Session) (given : Given) : Command → Given
  | .ask engine (.style name keywords) =>
    match s.engine engine, Builder.texts? keywords with
    | .ok (number, _), some texts => given.put name (number, texts)
    | _, _ => given
  | .chain source steps name =>
    match given.get? source, Builder.stepTexts? steps with
    | some (number, texts), some more => given.put name (number, texts ++ more)
    | _, _ => given
  | _ => given

/-- What builders have been given after commands that are carried out one after another. -/
def givenAlong : Session → Given → List Command → Given
  | _, given, [] => given
  | s, given, c :: more => givenAlong (s.execute c).session (s.givenAfter given c) more

/-- Whether the builders of a session have the words of what they have been given. -/
def AsGiven (s : Session) (given : Given) : Prop :=
  ∀ name, s.builders.get? name = (given.get? name).map fun found => (found.1, Builder.empty.given found.2)

theorem AsGiven.of_builders {s u : Session} {given : Given} (h : s.AsGiven given)
    (hsame : u.builders = s.builders) : u.AsGiven given := by
  intro name
  rw [hsame]
  exact h name

theorem AsGiven.put {s : Session} {given : Given} (h : s.AsGiven given) (name : Text) (number : Nat)
    (texts : List Text) :
    ({ s with builders := s.builders.put name (number, Builder.empty.given texts) } : Session).AsGiven
      (given.put name (number, texts)) := by
  intro other
  by_cases hsame : name = other
  · subst hsame
    simp only [OrderedMap.get?_put_self, Option.map_some]
  · simp only [OrderedMap.get?_put_of_ne _ hsame, h other]

theorem builders_create (s : Session) (name : Text) (origin : Origin) :
    (s.create name origin).session.builders = s.builders := by
  cases origin with
  | settings settings =>
    simp only [create]
    split
    · rfl
    · split <;> rfl
  | shared other =>
    simp only [create]
    split
    · rfl
    · split <;> rfl

theorem builders_drawn (s : Session) (number : Nat) (d : Except Engine.Refusal Text × Engine) :
    (s.drawn number d).session.builders = s.builders := by
  obtain ⟨answer, f⟩ := d
  cases answer <;> exact builders_store s number f

/-- Builders are made by `style` and by no other request to an engine. -/
theorem builders_serve (s : Session) (number : Nat) (e : Engine) {request : Request}
    (h : ∀ name keywords, request ≠ .style name keywords) :
    (s.serve number e request).session.builders = s.builders := by
  cases request with
  | resolve | paint | rawPaint =>
    simp only [serve]
    split
    · rfl
    · exact builders_drawn s number _
  | resetSequence => exact builders_drawn s number _
  | noPaint =>
    simp only [serve]
    split <;> rfl
  | setup | set | palette => exact builders_store s number _
  | style name keywords => exact absurd rfl (h name keywords)
  | shown | get | config => rfl

/-- **A request gives keywords if it is `style`,** and its keywords are texts. -/
theorem AsGiven.ask {s : Session} {given : Given} (h : s.AsGiven given) (engine : Text) (request : Request) :
    (s.execute (.ask engine request)).session.AsGiven (s.givenAfter given (.ask engine request)) := by
  cases request with
  | style name keywords =>
    simp only [execute, givenAfter]
    cases s.engine engine with
    | error f => exact h
    | ok found =>
      have hadded := Builder.empty.added_add keywords
      simp only [serve]
      generalize Builder.texts? keywords = texts, Builder.empty.add keywords = answer at hadded
      cases hadded with
      | refused r => exact h
      | taken texts => exact h.put name found.1 texts
  | resolve | paint | rawPaint | noPaint | resetSequence | setup | shown | set | get | config | palette =>
    simp only [execute]
    split
    · exact h
    · refine h.of_builders (builders_serve s _ _ fun name keywords hstyle => ?_)
      cases hstyle

/-- **A chain gives the texts of its steps behind those of the builder it goes on from.** -/
theorem AsGiven.chain {s : Session} {given : Given} (h : s.AsGiven given) (source : Text)
    (steps : List Builder.Step) (name : Text) :
    (s.execute (.chain source steps name)).session.AsGiven (s.givenAfter given (.chain source steps name)) := by
  have hsource := h source
  simp only [execute, givenAfter, builder, hsource]
  cases given.get? source with
  | none => exact h
  | some found =>
    obtain ⟨number, texts⟩ := found
    have hadded := (Builder.empty.given texts).added_steps steps
    simp only [Option.map_some]
    generalize Builder.stepTexts? steps = more, (Builder.empty.given texts).steps steps = answer at hadded
    cases hadded with
    | refused r => exact h
    | taken more =>
      rw [Builder.given_given]
      exact h.put name number (texts ++ more)

/-- **After a command builders have the words of what they have been given,** if they had them before. -/
theorem AsGiven.execute {s : Session} {given : Given} (h : s.AsGiven given) (c : Command) :
    (s.execute c).session.AsGiven (s.givenAfter given c) := by
  cases c with
  | create name origin => exact h.of_builders (builders_create s name origin)
  | ask engine request => exact h.ask engine request
  | chain source steps name => exact h.chain source steps name
  | apply name parts =>
    simp only [Session.execute]
    split
    · exact h
    · split
      · exact h
      · split
        · exact h
        · exact h.of_builders (builders_drawn s _ _)
  | showBuilder name | getBuilder name =>
    simp only [Session.execute]
    split <;> exact h

/-- **Whatever is done, builders have the words of what they have been given.** -/
theorem AsGiven.after {s : Session} {given : Given} (h : s.AsGiven given) (commands : List Command) :
    (s.after commands).AsGiven (givenAlong s given commands) := by
  induction commands generalizing s given with
  | nil => exact h
  | cons c more ih => exact ih (h.execute c)

theorem builder_eq_ok_iff {s : Session} {name : Text} {found : Nat × Builder} :
    s.builder name = .ok found ↔ s.builders.get? name = some found := by
  unfold builder
  split <;> rename_i hfound <;> rw [hfound]
  · exact ⟨nofun, nofun⟩
  · exact ⟨fun h => congrArg some (Except.ok.inj h), fun h => congrArg Except.ok (Option.some.inj h)⟩

/-- **A builder is the words of what it has been given.** -/
theorem AsGiven.builder_iff {s : Session} {given : Given} (h : s.AsGiven given) {name : Text} {number : Nat}
    {b : Builder} :
    s.builder name = .ok (number, b) ↔
      ∃ texts, given.get? name = some (number, texts) ∧ b = Builder.empty.given texts := by
  rw [builder_eq_ok_iff, h name, Option.map_eq_some_iff]
  constructor
  · rintro ⟨⟨number', texts⟩, hgiven, hfound⟩
    obtain ⟨rfl, rfl⟩ := Prod.mk.inj hfound
    exact ⟨texts, hgiven, rfl⟩
  · rintro ⟨texts, hgiven, rfl⟩
    exact ⟨(number, texts), hgiven, rfl⟩

/-- Whether a command is a call with keywords: it makes a builder for an engine that is there, or it adds to a
builder that is there, behind steps that are taken. -/
inductive CallsWith (s : Session) (keywords : List Datum) : Command → Prop
  /-- A builder is made. -/
  | style {engine : Text} {found : Nat × Engine} (h : s.engine engine = .ok found) (name : Text) :
      CallsWith s keywords (.ask engine (.style name keywords))
  /-- The keywords are added. -/
  | add {source : Text} {found : Nat × Builder} {before : List Builder.Step} {texts : List Text}
      (h : s.builder source = .ok found) (taken : Builder.stepTexts? before = some texts)
      (after : List Builder.Step) (name : Text) :
      CallsWith s keywords (.chain source (before ++ .add keywords :: after) name)

/-- **A call with a keyword that is no text is refused,** and what follows is done as if it had not been made. -/
theorem run_of_find? {s : Session} {keywords : List Datum} {d : Datum}
    (h : keywords.find? (fun k => k.kind != .text) = some d) {c : Command} (hc : s.CallsWith keywords c)
    (more : List Command) :
    s.run (c :: more) = s.reply (.error (.builder (.keywordKind d.kind))) :: s.run more := by
  have hrefused : s.execute c = s.reply (.error (.builder (.keywordKind d.kind))) := by
    cases hc with
    | style hengine name => simp only [execute, hengine, serve, Builder.add_of_find? h]
    | add hbuilder taken after name => simp only [execute, hbuilder, Builder.steps_of_find? h taken]
  rw [run, hrefused]
  rfl

/-- **A builder is its word list.**  Commands of any kind are carried out one after another, beginning without
engines, and some of them may be refused.

A builder is there under a name exactly if texts were given under it, by `style` for its engine and then by
steps, and its segments are the words of these texts, in order.  None of them is empty, and none has a blank in
it; the expression is read back as the segments, and `style` with the expression, for any engine, makes the same
builder.  A step by name adds its name as one segment.

If a keyword of a call is no text, the call is refused with the kind of the first such keyword, and what follows
is done as if it had not been made. -/
theorem builders_are_words {commands : List Command} {s : Session} (hs : empty.after commands = s) :
    (∀ name number b, s.builder name = .ok (number, b) ↔
      ∃ texts, (givenAlong empty [] commands).get? name = some (number, texts) ∧
        b.segments = texts.flatMap Text.words) ∧
    (∀ name number b, s.builder name = .ok (number, b) →
      (∀ w ∈ b.segments, w ≠ [] ∧ ∀ c ∈ w, Text.isBlank c = false) ∧
      Text.words b.expression = b.segments ∧
      (∀ engine found other, s.engine engine = .ok found →
        (s.execute (.ask engine (.style other [.text b.expression]))).answer = .ok (.builder b)) ∧
      ∀ step ∈ Builder.stepNames, ∀ other,
        (s.execute (.chain name [.named step.toList] other)).answer =
          .ok (.builder ⟨b.segments ++ [step.toList]⟩)) ∧
    ∀ keywords : List Datum, (∃ k ∈ keywords, k.kind ≠ .text) →
      ∃ d, keywords.find? (fun k => k.kind != .text) = some d ∧ ∀ c, s.CallsWith keywords c → ∀ more,
        s.run (c :: more) = s.reply (.error (.builder (.keywordKind d.kind))) :: s.run more := by
  have hgiven : s.AsGiven (givenAlong empty [] commands) := hs ▸ AsGiven.after (fun _ => rfl) commands
  refine ⟨fun name number b => ?_, fun name number b hb => ?_, fun keywords hkeywords => ?_⟩
  · simp only [hgiven.builder_iff, Builder.eq_given_empty_iff]
  · obtain ⟨texts, -, rfl⟩ := hgiven.builder_iff.1 hb
    refine ⟨Builder.solid_given_empty texts, Builder.words_expression texts, fun engine found other hengine => ?_,
      fun step hstep other => ?_⟩
    · simp only [execute, hengine, serve, Builder.add_expression, reply]
    · simp only [execute, hb, Builder.steps, Builder.step_named hstep, reply]
  · obtain ⟨k, hk, hkind⟩ := hkeywords
    have hfound : (keywords.find? fun k => k.kind != .text).isSome = true :=
      List.find?_isSome.2 ⟨k, hk, bne_iff_ne.2 hkind⟩
    obtain ⟨d, hd⟩ := Option.isSome_iff_exists.1 hfound
    exact ⟨d, hd, fun c hc more => run_of_find? hd hc more⟩

/-- A builder that is taken further in two directions, a chain with a keyword that is no text, one with a step
that is not there, and another engine under the name of the first. -/
def drafts : List Command :=
  let a := "a".toList
  let base := "base".toList
  let text := fun t : String => Datum.text t.toList
  [.create a (.settings {}),
    .ask a (.style base [text " bold\tfg_red\u2003", text ""]),
    .chain base [.named "bright".toList, .add [text "bg", text "blue dim"]] "left".toList,
    .chain base [.named "dim".toList, .add [text "blink", .whole 1]] base,
    .chain base [.named "sparkly".toList] base,
    .create a (.settings { enabled := some (.flag false) }),
    .chain base [.named "off".toList] base]

/-- Keywords of which the first is a text. -/
def mixed : List Datum := [.text "dim".toList, .nothing, .whole 1]

/-- What `drafts` leaves of the first builder, and how it goes on: a call with `mixed` is refused for the second of
them and leaves no trace. -/
theorem builders_are_words_drafts :
    (∃ b, (empty.after drafts).builder "base".toList = .ok (0, b) ∧
      b.segments = ["bold", "fg_red", "off"].map String.toList ∧
      Text.words b.expression = b.segments ∧
      ((empty.after drafts).execute (.ask "a".toList (.style [] [.text b.expression]))).answer =
        .ok (.builder b) ∧
      ((empty.after drafts).execute (.chain "base".toList [.named "dim".toList] [])).answer =
        .ok (.builder ⟨b.segments ++ ["dim".toList]⟩)) ∧
    (∃ k ∈ mixed, k.kind ≠ .text) ∧
      (empty.after drafts).run
          [.chain "base".toList [.named "off".toList, .add mixed] [], .getBuilder "base".toList] =
        (empty.after drafts).reply (.error (.builder (.keywordKind .nothing))) ::
          (empty.after drafts).run [.getBuilder "base".toList] := by
  obtain ⟨hbuilders, hwords, hrefused⟩ := builders_are_words (Eq.refl (empty.after drafts))
  have hgiven : (givenAlong empty [] drafts).get? "base".toList =
      some (0, [" bold\tfg_red\u2003", "", "off"].map String.toList) := by
    decide
  have hbase : (empty.after drafts).builder "base".toList =
      .ok (0, ⟨["bold", "fg_red", "off"].map String.toList⟩) :=
    (hbuilders _ _ _).2 ⟨_, hgiven, by decide⟩
  have hengine : ∃ found, (empty.after drafts).engine "a".toList = .ok found := by
    cases hfound : (empty.after drafts).engine "a".toList with
    | ok found => exact ⟨found, rfl⟩
    | error f =>
      have hthere : ((empty.after drafts).engine "a".toList).toOption.isSome = true := by decide
      rw [hfound] at hthere
      cases hthere
  obtain ⟨found, hfound⟩ := hengine
  obtain ⟨-, hexpression, hstyle, hstep⟩ := hwords _ _ _ hbase
  have hmixed : ∃ k ∈ mixed, k.kind ≠ .text :=
    ⟨.nothing, List.mem_cons_of_mem _ (List.mem_cons_self ..), by decide⟩
  obtain ⟨d, hd, hrun⟩ := hrefused mixed hmixed
  cases hd
  have hcall : (empty.after drafts).CallsWith mixed
      (.chain "base".toList ([.named "off".toList] ++ .add mixed :: []) []) :=
    .add hbase rfl [] []
  exact ⟨⟨_, hbase, rfl, hexpression, hstyle _ found _ hfound, hstep "dim" (by decide) _⟩, hmixed,
    hrun _ hcall _⟩

end Session
end TermStyle
