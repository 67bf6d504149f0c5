/-
# Keywords and words

A builder is given keywords, which may be values of any kind, and keeps words.  Whether a step is taken depends
on its keywords alone, and so does what it adds (`added_step`):

| step | is taken | adds |
| --- | --- | --- |
| by name | if there is a step of this name | the name, which is one word (`step_named`) |
| `add` | if all keywords are texts | the words of each text, in order |

So steps add the words of all their texts one after another (`added_steps`), and `add` is refused with the
first keyword that is no text (`add_of_find?`).

The words are never empty and have no blank in them, whatever the keywords, and what is made of words in this way
can be written as an expression and read back (`words_expression`).
-/

import TermStyle.Builder

namespace TermStyle
namespace Builder

/-- The texts that keywords are, if all of them are texts. -/
def texts? : List Datum → Option (List Text)
  | [] => some []
  | .text t :: more => (texts? more).map (t :: ·)
  | _ :: _ => none

/-- The texts that a step adds the words of, if it is taken. -/
def Step.texts? : Step → Option (List Text)
  | .named name => if stepNames.any fun s => s.toList == name then some [name] else none
  | .add keywords => Builder.texts? keywords

/-- The texts that steps add the words of, if all are taken. -/
def stepTexts? : List Step → Option (List Text)
  | [] => some []
  | s :: more => s.texts?.bind fun texts => (stepTexts? more).map (texts ++ ·)

/-- The builder with the words of more texts. -/
def given (b : Builder) (texts : List Text) : Builder := ⟨b.segments ++ texts.flatMap Text.words⟩

@[simp] theorem given_nil (b : Builder) : b.given [] = b := by
  simp [given]

@[simp] theorem given_given (b : Builder) (texts more : List Text) :
    (b.given texts).given more = b.given (texts ++ more) := by
  simp [given]

/-- What can come of taking a builder further: without texts it is refused, and with texts it has their words. -/
inductive Added (b : Builder) : Option (List Text) → Except Refusal Builder → Prop
  /-- It is refused. -/
  | refused (r : Refusal) : Added b none (.error r)
  /-- The words of the texts are added. -/
  | taken (texts : List Text) : Added b (some texts) (.ok (b.given texts))

/-- What is added behind other texts is added to the builder before these. -/
theorem Added.behind {b : Builder} {first : List Text} {texts : Option (List Text)}
    {answer : Except Refusal Builder} (h : (b.given first).Added texts answer) :
    b.Added (texts.map (first ++ ·)) answer := by
  cases h with
  | refused r => exact .refused r
  | taken texts =>
    rw [given_given]
    exact .taken (first ++ texts)

theorem added_nil (b : Builder) : b.Added (some []) (.ok b) := by
  have h : b.Added (some []) (.ok (b.given [])) := .taken []
  rwa [given_nil] at h

/-- **Keywords are added if all are texts,** and then each adds its words. -/
theorem added_add (b : Builder) (keywords : List Datum) : b.Added (texts? keywords) (b.add keywords) := by
  induction keywords generalizing b with
  | nil => exact b.added_nil
  | cons d more ih =>
    cases d with
    | text t =>
      have hword : (⟨b.segments ++ Text.words t⟩ : Builder) = b.given [t] := by simp [given]
      rw [add, hword]
      exact (ih (b.given [t])).behind
    | nothing | flag | whole | fraction | list | record | object => exact .refused _

/-- A step by name adds the name as a keyword. -/
theorem added_step (b : Builder) (s : Step) : b.Added s.texts? (b.step s) := by
  cases s with
  | add keywords => exact b.added_add keywords
  | named name =>
    rw [step, Step.texts?]
    split
    · exact b.added_add [.text name]
    · exact .refused _

/-- **Steps add the words of their texts,** one after another. -/
theorem added_steps (b : Builder) (steps : List Step) : b.Added (stepTexts? steps) (b.steps steps) := by
  induction steps generalizing b with
  | nil => exact b.added_nil
  | cons s more ih =>
    have hstep := b.added_step s
    rw [Builder.steps, stepTexts?]
    generalize s.texts? = texts, b.step s = answer at hstep
    cases hstep with
    | refused r => exact .refused r
    | taken texts => exact (ih (b.given texts)).behind

/-- What follows steps that are taken goes on with the builder after them. -/
theorem steps_append {b next : Builder} {before : List Step} (h : b.steps before = .ok next) (after : List Step) :
    b.steps (before ++ after) = next.steps after := by
  induction before generalizing b with
  | nil =>
    cases h
    rfl
  | cons s more ih =>
    rw [Builder.steps] at h
    rw [List.cons_append, Builder.steps]
    split at h
    · cases h
    · exact ih h

/-- **The first keyword that is no text is refused,** with its kind. -/
theorem add_of_find? {keywords : List Datum} {d : Datum}
    (h : keywords.find? (fun k => k.kind != .text) = some d) (b : Builder) :
    b.add keywords = .error (.keywordKind d.kind) := by
  induction keywords generalizing b with
  | nil => cases h
  | cons first more ih =>
    cases first with
    | text t => exact ih h _
    | nothing | flag | whole | fraction | list | record | object =>
      cases h
      rfl

/-- Behind steps that are taken, it is the same. -/
theorem steps_of_find? {keywords : List Datum} {d : Datum}
    (h : keywords.find? (fun k => k.kind != .text) = some d) {before : List Step} {texts : List Text}
    (hbefore : stepTexts? before = some texts) (after : List Step) (b : Builder) :
    b.steps (before ++ .add keywords :: after) = .error (.keywordKind d.kind) := by
  have htaken := b.added_steps before
  rw [hbefore] at htaken
  generalize hnext : b.steps before = answer at htaken
  cases htaken with
  | taken texts => rw [steps_append hnext, Builder.steps, step, add_of_find? h]

/-- **The name of a step is one word.** -/
theorem words_stepName {name : String} (h : name ∈ stepNames) : Text.words name.toList = [name.toList] := by
  have hall : ∀ name ∈ stepNames, Text.words name.toList = [name.toList] := by decide
  exact hall name h

/-- **A step by name adds its name,** as one word. -/
theorem step_named {name : String} (h : name ∈ stepNames) (b : Builder) :
    b.step (.named name.toList) = .ok ⟨b.segments ++ [name.toList]⟩ := by
  have hthere : (stepNames.any fun s => s.toList == name.toList) = true :=
    List.any_eq_true.2 ⟨name, h, beq_self_eq_true _⟩
  rw [step, if_pos hthere, add, add, words_stepName h]

/-- A builder without words before is given texts exactly if its segments are their words. -/
theorem eq_given_empty_iff {b : Builder} {texts : List Text} :
    b = empty.given texts ↔ b.segments = texts.flatMap Text.words := by
  constructor
  · rintro rfl
    rfl
  · intro h
    rw [given, ← h]
    rfl

/-- **Words have no blank in them,** and none of them is empty. -/
theorem solid_given_empty (texts : List Text) :
    ∀ w ∈ (empty.given texts).segments, w ≠ [] ∧ ∀ c ∈ w, Text.isBlank c = false := by
  intro w hw
  obtain ⟨t, -, hword⟩ := List.mem_flatMap.1 hw
  exact Text.not_isBlank_of_mem_words hword

/-- **The expression of words is read back** as these words. -/
theorem words_expression (texts : List Text) :
    Text.words (empty.given texts).expression = (empty.given texts).segments :=
  Text.words_spaced (solid_given_empty texts)

/-- **The expression as a keyword gives all the words again.** -/
theorem add_expression (texts : List Text) :
    empty.add [.text (empty.given texts).expression] = .ok (empty.given texts) := by
  rw [add, add, words_expression]
  rfl

end Builder
end TermStyle
