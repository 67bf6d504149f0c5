/-
# How rendering can fail

Drawing is meant to have one way to fail: an expression has a token that means nothing.  The failure names
the token and the expression, and both are as it says (`Expression.Unresolvable.Justified`).

| operation | what it resolves |
| --- | --- |
| `resolve` | the expression |
| `resetSequence` | the reset command |
| `rawPaint` | the expressions of the inline tags, up to the first that fails |
| `paint` | the same, and the reset command |
| a builder | the reset command for the empty text; else its own words, and then as `paint` |
| `noPaint` | nothing, so it should not fail |

An inline tag without a group would be another way, for there would be no expression to take from it.  But
a tag pattern without groups is refused wherever one comes in, so the pattern of an engine that can be
reached has one, and each hit has the groups of its pattern.  A group that took no part stands for the empty
expression, which resolves to nothing.

Two more ways are left, and no check is in front of them (`Session.Broken`).  A pattern over bytes has groups
like any other, so it is accepted, and then no text can be searched with it.  And an argument need not have a
text: what it raises comes out of the call.  `Session.Reachable.rendered` says of each operation exactly when
neither of them is in its way, and `not_rendered_overBytes` is the first of them.
-/

import TermStyle.Proofs.Engine.ResetCommand
import TermStyle.Proofs.Expression.Unknown
import TermStyle.Proofs.Pattern.Groups
import TermStyle.Proofs.Session.Configurations
import TermStyle.Proofs.Session.Failures
import TermStyle.Proofs.Session.Independence

namespace TermStyle

namespace Engine

/-- **What an engine draws, or why it does not:** a failure says truly which token of which expression means
nothing. -/
def Honest (e : Engine) (drawn : Except Refusal Text) : Prop :=
  ∀ r, drawn = .error r → ∃ u, r = .unresolvable u ∧ u.Justified e.palette

theorem Honest.map {e : Engine} {drawn : Except Refusal Text} (h : e.Honest drawn) (f : Text → Text) :
    e.Honest (drawn.map f) :=
  fun r hr => h r (map_eq_error_iff.1 hr)

theorem honest_resolved (e : Engine) (x : Text) : e.Honest (e.resolved x) := by
  intro r hr
  obtain ⟨u, hu, rfl⟩ := found_eq_error_iff.1 (map_eq_error_iff.1 hr)
  exact ⟨u, rfl, (Expression.justified_of_resolve_error hu).2⟩

/-- Whether a builder has nothing to search: there is no text to paint, or its own words do not resolve. -/
def EndsEarly (e : Engine) (x t : Text) : Prop := t = [] ∨ ∃ r, e.resolved x = .error r

theorem honest_paintedStyled_of_endsEarly {e : Engine} {x t : Text} (h : e.EndsEarly x t) :
    e.Honest (e.paintedStyled x t) := by
  have hhonest := e.honest_resolved x
  unfold paintedStyled
  split
  · exact e.honest_resolved _
  · rename_i hsome
    obtain ⟨r, hr⟩ := h.resolve_left fun hnone => hsome (List.isEmpty_iff.2 hnone)
    rw [hr] at hhonest ⊢
    exact hhonest

section Readable

variable {e : Engine} (hreads : e.config.colorTag.readsText = true)
include hreads

theorem honest_rawPainted (t : Text) : e.Honest (e.rawPainted t) := by
  rw [rawPainted_eq hreads]
  intro r hr
  obtain ⟨_, groups, -, htag⟩ := hit_of_tagged_error (map_eq_error_iff.1 hr)
  exact e.honest_resolved (ColorTag.expression groups) r htag

theorem honest_painted (t : Text) : e.Honest (e.painted t) := by
  unfold painted
  split
  · rename_i r hraw
    intro r' hr
    cases hr
    exact honest_rawPainted hreads t r hraw
  · exact (e.honest_resolved _).map _

/-- **Drawing fails only with a token that means nothing,** also behind the words of a builder, as long as
texts can be searched. -/
theorem honest_paintedStyled (x t : Text) : e.Honest (e.paintedStyled x t) := by
  unfold paintedStyled
  split
  · exact e.honest_resolved _
  · split
    · rename_i r hx
      intro r' hr
      cases hr
      exact e.honest_resolved x r hx
    · exact honest_painted hreads _

end Readable

section Unreadable

variable {e : Engine} (hreads : e.config.colorTag.readsText = false)
include hreads

theorem rawPainted_of_unreadable (t : Text) : e.rawPainted t = .error .unreadable := by
  rw [rawPainted, hreads, if_neg Bool.false_ne_true]

theorem painted_of_unreadable (t : Text) : e.painted t = .error .unreadable := by
  rw [painted, rawPainted_of_unreadable hreads]

/-- Where no text can be searched, neither can that of a builder. -/
theorem paintedStyled_of_unreadable {x t : Text} (h : ¬ e.EndsEarly x t) :
    e.paintedStyled x t = .error .unreadable := by
  obtain ⟨hsome, hresolves⟩ := not_or.1 h
  rw [paintedStyled, if_neg (hsome ∘ List.isEmpty_iff.1)]
  split
  · rename_i r hr
    exact absurd ⟨r, hr⟩ hresolves
  · exact painted_of_unreadable hreads _

end Unreadable

end Engine

namespace Session

/-- Whether arguments are there: the builders among them have been made. -/
def Present (s : Session) (parts : List Argument) : Prop :=
  ∀ name, .builder name ∈ parts → ∃ b, s.builder name = .ok b

/-- Whether arguments are there and have a text, each of them. -/
def Worded (s : Session) (e : Engine) (parts : List Argument) : Prop :=
  ∀ a ∈ parts, ∃ d t, s.value e a = .ok d ∧ d.asText = .ok t

/-- Whether an error is what the first argument without a text raises. -/
def Raises (s : Session) (e : Engine) (parts : List Argument) (r : Raised) : Prop :=
  ∃ done a more d, parts = done ++ a :: more ∧ s.Worded e done ∧ s.value e a = .ok d ∧ d.asText = .error r

/-- An answer to a request to draw: a text, or a token that means nothing under the palette. -/
inductive Rendered (palette : Palette) : Except Fault Answer → Prop
  /-- A text. -/
  | text (t : Text) : Rendered palette (.ok (.text t))
  /-- An expression that cannot be resolved. -/
  | unresolvable (u : Expression.Unresolvable) (h : u.Justified palette) :
      Rendered palette (.error (.engine (.unresolvable u)))

/-- An answer that is neither: no text can be searched with the tag pattern, or an argument has no text. -/
inductive Broken (s : Session) (e : Engine) (parts : List Argument) : Except Fault Answer → Prop
  /-- The tag pattern is one over bytes. -/
  | unreadable (h : e.config.colorTag.readsText = false) : Broken s e parts (.error (.engine .unreadable))
  /-- The first argument without a text raises an error. -/
  | raised {r : Raised} (h : s.Raises e parts r) : Broken s e parts (.error (.raised r))

theorem Broken.not_rendered {s : Session} {e : Engine} {parts : List Argument}
    {answer : Except Fault Answer} (h : s.Broken e parts answer) {palette : Palette} :
    ¬ Rendered palette answer := by
  cases h <;> intro hrendered <;> cases hrendered

theorem Raises.not_worded {s : Session} {e : Engine} {parts : List Argument} {r : Raised}
    (h : s.Raises e parts r) : ¬ s.Worded e parts := by
  obtain ⟨done, a, more, d, rfl, -, hvalue, hraises⟩ := h
  intro hworded
  obtain ⟨d', t, hvalue', htext⟩ := hworded a (List.mem_append_right _ (List.mem_cons_self ..))
  obtain rfl : d = d' := Except.ok.inj (hvalue.symm.trans hvalue')
  cases hraises.symm.trans htext

theorem exists_value {s : Session} {parts : List Argument} (h : s.Present parts) (e : Engine) {a : Argument}
    (ha : a ∈ parts) : ∃ d, s.value e a = .ok d := by
  cases a with
  | datum d => exact ⟨d, rfl⟩
  | builder name =>
    obtain ⟨⟨number, b⟩, hb⟩ := h name ha
    exact ⟨.text b.shown, by rw [value, hb]⟩
  | palette => exact ⟨_, rfl⟩

/-- Arguments that are there have values, and either each of these has a text, or the first one that has none
raises an error. -/
theorem values_cases {s : Session} {parts : List Argument} (h : s.Present parts) (e : Engine) :
    ∃ ds, s.values e parts = .ok ds ∧
      ((∃ t, Datum.joinTexts ds = .ok t ∧ s.Worded e parts) ∨
        ∃ r, Datum.joinTexts ds = .error r ∧ s.Raises e parts r) := by
  induction parts with
  | nil => exact ⟨[], rfl, .inl ⟨[], rfl, fun _ ha => absurd ha List.not_mem_nil⟩⟩
  | cons a more ih =>
    obtain ⟨d, hvalue⟩ := exists_value h e (List.mem_cons_self ..)
    obtain ⟨ds, hvalues, hmore⟩ := ih fun name hname => h name (List.mem_cons_of_mem _ hname)
    refine ⟨d :: ds, by rw [values, hvalue, hvalues], ?_⟩
    cases htext : d.asText with
    | error r =>
      refine .inr ⟨r, by rw [Datum.joinTexts, htext], [], a, more, d, rfl, ?_, hvalue, htext⟩
      exact fun _ ha => absurd ha List.not_mem_nil
    | ok t =>
      have hfirst : ∃ d t, s.value e a = .ok d ∧ d.asText = .ok t := ⟨d, t, hvalue, htext⟩
      rcases hmore with ⟨behind, hbehind, hworded⟩ | ⟨r, hr, done, b, rest, d', rfl, hdone, hb, hraises⟩
      · exact .inl ⟨t ++ behind, by rw [Datum.joinTexts, htext, hbehind],
          List.forall_mem_cons.2 ⟨hfirst, hworded⟩⟩
      · exact .inr ⟨r, by rw [Datum.joinTexts, htext, hr], a :: done, b, rest, d', rfl,
          List.forall_mem_cons.2 ⟨hfirst, hdone⟩, hb, hraises⟩

/-- **Arguments that are there have a text,** or the first of them that has none raises an error. -/
theorem joined_cases {s : Session} {parts : List Argument} (h : s.Present parts) (e : Engine) :
    (∃ t, s.joined e parts = .ok t ∧ s.Worded e parts) ∨
      ∃ r, s.joined e parts = .error (.raised r) ∧ s.Raises e parts r := by
  obtain ⟨ds, hvalues, ⟨t, ht, hworded⟩ | ⟨r, hr, hraises⟩⟩ := values_cases h e
  · exact .inl ⟨t, by simp only [joined, hvalues, ht]; rfl, hworded⟩
  · exact .inr ⟨r, by simp only [joined, hvalues, hr]; rfl, hraises⟩

/-- An expression that is there is a text, or it raises an error. -/
theorem expression_cases {s : Session} {a : Argument} (h : s.Present [a]) (e : Engine) :
    (∃ x, s.expression e a = .ok x ∧ s.Worded e [a]) ∨
      ∃ r, s.expression e a = .error (.raised r) ∧ s.Raises e [a] r := by
  obtain ⟨d, hvalue⟩ := exists_value h e (List.mem_singleton_self a)
  rcases d.asExpression_cases with ⟨x, t, hx, htext⟩ | ⟨r, hr, htext⟩
  · exact .inl ⟨x, by simp only [expression, hvalue, hx]; rfl,
      List.forall_mem_singleton.2 ⟨d, t, hvalue, htext⟩⟩
  · exact .inr ⟨r, by simp only [expression, hvalue, hr]; rfl, [], a, [], d, rfl,
      fun _ ha => absurd ha List.not_mem_nil, hvalue, htext⟩

/-- What a request is answered where it is answered as it should be under a condition, and is broken
without it. -/
def Verdict (s : Session) (e : Engine) (parts : List Argument) (good : Except Fault Answer → Prop)
    (condition : Prop) (answer : Except Fault Answer) : Prop :=
  condition ∧ good answer ∨ ¬ condition ∧ s.Broken e parts answer

section Verdict

variable {s : Session} {e : Engine} {parts : List Argument} {good : Except Fault Answer → Prop}
  {condition : Prop} {answer : Except Fault Answer}

/-- A request is answered as it should be exactly under the condition, and it is broken otherwise. -/
theorem Verdict.iff (h : s.Verdict e parts good condition answer)
    (hgood : ∀ answer, s.Broken e parts answer → ¬ good answer) :
    (good answer ↔ condition) ∧ (good answer ∨ s.Broken e parts answer) := by
  rcases h with ⟨hcondition, hanswer⟩ | ⟨hnot, hbroken⟩
  · exact ⟨iff_of_true hanswer hcondition, .inl hanswer⟩
  · exact ⟨iff_of_false (hgood answer hbroken) hnot, .inr hbroken⟩

theorem Verdict.of_raises {r : Raised} (h : s.Raises e parts r) (hcondition : condition → s.Worded e parts) :
    s.Verdict e parts good condition (.error (.raised r)) :=
  .inr ⟨h.not_worded ∘ hcondition, .raised h⟩

end Verdict

section Serving

variable {s : Session} {e : Engine} (number : Nat)

theorem rendered_drawn {d : Except Engine.Refusal Text × Engine} (h : e.Honest d.1) :
    Rendered e.palette (s.drawn number d).answer := by
  obtain ⟨answer, after⟩ := d
  cases answer with
  | ok t => exact .text t
  | error r =>
    obtain ⟨u, rfl, hu⟩ := h r rfl
    exact .unresolvable u hu

/-- A drawing that searches a text is rendered, unless no text can be searched. -/
theorem verdict_drawn (parts : List Argument) {d : Except Engine.Refusal Text × Engine}
    (hhonest : e.config.colorTag.readsText = true → e.Honest d.1)
    (hfails : e.config.colorTag.readsText = false → d.1 = .error .unreadable) :
    s.Verdict e parts (Rendered e.palette) (e.config.colorTag.readsText = true)
      (s.drawn number d).answer := by
  cases hreads : e.config.colorTag.readsText with
  | true => exact .inl ⟨rfl, rendered_drawn number (hhonest hreads)⟩
  | false =>
    obtain ⟨answer, after⟩ := d
    obtain rfl : answer = .error .unreadable := hfails hreads
    exact .inr ⟨Bool.false_ne_true, .unreadable hreads⟩

/-- Whether a request searches a text for tags. -/
def Request.searches : Request → Bool
  | .paint _ | .rawPaint _ => true
  | _ => false

/-- A request that joins its arguments and searches their text is rendered exactly if they have texts, and
these can be searched. -/
theorem verdict_searching (draw : Text → Except Engine.Refusal Text × Engine) {request : Request}
    (hsearches : request.searches = true) (hparts : s.Present request.arguments)
    (hhonest : e.config.colorTag.readsText = true → ∀ t, e.Honest (draw t).1)
    (hfails : e.config.colorTag.readsText = false → ∀ t, (draw t).1 = .error .unreadable)
    {outcome : Outcome} (hdrawn : ∀ t, s.joined e request.arguments = .ok t → outcome = s.drawn number (draw t))
    (hrefused : ∀ f, s.joined e request.arguments = .error f → outcome = s.reply (.error f)) :
    s.Verdict e request.arguments (Rendered e.palette)
      (s.Worded e request.arguments ∧ (request.searches = true → e.config.colorTag.readsText = true))
      outcome.answer := by
  rcases joined_cases hparts e with ⟨t, ht, hworded⟩ | ⟨r, hr, hraises⟩
  · rw [hdrawn t ht]
    rcases verdict_drawn number request.arguments (fun h => hhonest h t) (fun h => hfails h t) with
      ⟨hreads, hanswer⟩ | ⟨hreads, hanswer⟩
    · exact .inl ⟨⟨hworded, fun _ => hreads⟩, hanswer⟩
    · exact .inr ⟨fun hall => hreads (hall.2 hsearches), hanswer⟩
  · rw [hrefused _ hr]
    exact .of_raises hraises And.left

/-- **What comes of a request to draw.** -/
theorem verdict_serve (he : e.Coherent) {request : Request} (hdraws : request.draws = true)
    (hparts : s.Present request.arguments) :
    s.Verdict e request.arguments (Rendered e.palette)
      (s.Worded e request.arguments ∧ (request.searches = true → e.config.colorTag.readsText = true))
      (s.serve number e request).answer := by
  cases request with
  | resolve a =>
    rcases expression_cases hparts e with ⟨x, hx, hworded⟩ | ⟨r, hr, hraises⟩
    · simp only [serve, hx]
      exact .inl ⟨⟨hworded, fun h => by cases h⟩,
        rendered_drawn number (he.fst_resolve x ▸ e.honest_resolved x)⟩
    · simp only [serve, hr]
      exact .of_raises hraises And.left
  | paint parts =>
    refine verdict_searching number e.paint rfl hparts
      (fun h t => he.fst_paint t ▸ Engine.honest_painted h t)
      (fun h t => he.fst_paint t ▸ Engine.painted_of_unreadable h t) ?_ ?_ <;>
    · intro _ hjoined
      rw [Request.arguments] at hjoined
      simp only [serve, hjoined]
  | rawPaint parts =>
    refine verdict_searching number e.rawPaint rfl hparts
      (fun h t => he.fst_rawPaint t ▸ Engine.honest_rawPainted h t)
      (fun h t => he.fst_rawPaint t ▸ Engine.rawPainted_of_unreadable h t) ?_ ?_ <;>
    · intro _ hjoined
      rw [Request.arguments] at hjoined
      simp only [serve, hjoined]
  | resetSequence =>
    exact .inl ⟨⟨fun _ ha => absurd ha List.not_mem_nil, fun h => by cases h⟩,
      rendered_drawn number (he.fst_resolve _ ▸ e.honest_resolved _)⟩
  | noPaint | setup | shown | set | get | config | palette | style => cases hdraws

/-- **What comes of a request to take styles out.** -/
theorem verdict_noPaint {parts : List Argument} (hparts : s.Present parts) :
    s.Verdict e parts (fun answer => ∃ t, answer = .ok (.text t))
      (s.Worded e parts ∧ e.config.colorTag.readsText = true) (s.serve number e (.noPaint parts)).answer := by
  rcases joined_cases hparts e with ⟨t, ht, hworded⟩ | ⟨r, hr, hraises⟩
  · simp only [serve, ht, reply]
    cases hreads : e.config.colorTag.readsText with
    | true => exact .inl ⟨⟨hworded, rfl⟩, e.noPaint t, by rw [Engine.unpaint, if_pos hreads]; rfl⟩
    | false =>
      have hleft : e.unpaint t = .error .unreadable := by
        rw [Engine.unpaint, hreads, if_neg Bool.false_ne_true]
      rw [hleft]
      exact .inr ⟨fun h => Bool.false_ne_true h.2, .unreadable hreads⟩
  · simp only [serve, hr]
    exact .of_raises hraises And.left

/-- **What comes of a builder that is applied,** for its engine. -/
theorem verdict_apply (he : s.engineAt? number = some e) (hcoherent : e.Coherent) {name : Text} {b : Builder}
    (hb : s.builder name = .ok (number, b)) {parts : List Argument} (hparts : s.Present parts) :
    s.Verdict e parts (Rendered e.palette)
      (∃ t, s.joined e parts = .ok t ∧
        (t = [] ∨ (∃ r, (e.resolve b.expression).1 = .error r) ∨ e.config.colorTag.readsText = true))
      (s.execute (.apply name parts)).answer := by
  simp only [execute, hb, he]
  rcases joined_cases hparts e with ⟨t, ht, -⟩ | ⟨r, hr, hraises⟩
  · simp only [ht, hcoherent.fst_resolve, ← or_assoc]
    have hpainted := hcoherent.fst_paintStyled b.expression t
    by_cases hearly : e.EndsEarly b.expression t
    · exact .inl ⟨⟨t, rfl, .inl hearly⟩,
        rendered_drawn number (hpainted ▸ Engine.honest_paintedStyled_of_endsEarly hearly)⟩
    · have hhonest := fun h => hpainted ▸ Engine.honest_paintedStyled h b.expression t
      have hfails := fun h => hpainted ▸ Engine.paintedStyled_of_unreadable h hearly
      rcases verdict_drawn (s := s) number parts hhonest hfails with ⟨hreads, hrendered⟩ | ⟨hreads, hbroken⟩
      · exact .inl ⟨⟨t, rfl, .inr hreads⟩, hrendered⟩
      · refine .inr ⟨?_, hbroken⟩
        rintro ⟨t', ht', hcase⟩
        cases ht'
        exact hcase.elim hearly hreads
  · simp only [hr]
    refine .inr ⟨?_, .raised hraises⟩
    rintro ⟨t, ht, -⟩
    cases ht

end Serving

/-- **Exactly when rendering fails only with a token that means nothing.**  Take any session that commands
lead to, accepted or refused, and any of its engines.

Its tag pattern has a group, and so has every hit in any text.  Asked to resolve, to paint with or without
the reset or for the reset sequence, with any arguments that are there, it answers with a text, or with a
failure that names a token of the expression in it which is no keyword, no name of the palette, and no true
color and no raw parameters: exactly if each argument has a text, and a text can be searched with the pattern
where that is asked for.  A builder of its own that is applied does so exactly if each argument has a text and
they are empty, or its own words do not resolve, or a text can be searched.  Asked to take styles
out, the engine answers with a text exactly if each argument has one and it can be searched.  Otherwise the
answer is that the pattern cannot be used, or what the first argument without a text raises. -/
theorem Reachable.rendered {s : Session} (hs : s.Reachable) {number : Nat} {e : Engine}
    (he : s.engineAt? number = some e) :
    (0 < e.config.colorTag.groups ∧
      ∀ t matched groups, .hit matched groups ∈ Text.pieces e.config.colorTag.scan t → groups ≠ []) ∧
    (∀ request, request.draws = true → s.Present request.arguments →
      let answer := (s.serve number e request).answer
      (Rendered e.palette answer ↔ s.Worded e request.arguments ∧
        (request.searches = true → e.config.colorTag.readsText = true)) ∧
      (Rendered e.palette answer ∨ s.Broken e request.arguments answer)) ∧
    (∀ name b parts, s.builder name = .ok (number, b) → s.Present parts →
      let answer := (s.execute (.apply name parts)).answer
      (Rendered e.palette answer ↔ ∃ t, s.joined e parts = .ok t ∧
        (t = [] ∨ (∃ r, (e.resolve b.expression).1 = .error r) ∨ e.config.colorTag.readsText = true)) ∧
      (Rendered e.palette answer ∨ s.Broken e parts answer)) ∧
    ∀ parts, s.Present parts →
      let answer := (s.serve number e (.noPaint parts)).answer
      ((∃ t, answer = .ok (.text t)) ↔ s.Worded e parts ∧ e.config.colorTag.readsText = true) ∧
      ((∃ t, answer = .ok (.text t)) ∨ s.Broken e parts answer) := by
  have hreachable : e.Reachable := ⟨s, number, hs, he⟩
  have hgroups := hreachable.groups_pos
  have hcoherent := hreachable.coherent
  refine ⟨⟨hgroups, ?_⟩, ?_, ?_, ?_⟩
  · rintro t matched _ hhit rfl
    have hlength := ColorTag.length_groups_of_mem_pieces hhit
    rw [List.length_nil] at hlength
    omega
  · exact fun request hdraws hparts =>
      (verdict_serve number hcoherent hdraws hparts).iff fun _ hbroken => hbroken.not_rendered
  · exact fun name b parts hb hparts =>
      (verdict_apply number he hcoherent hb hparts).iff fun _ hbroken => hbroken.not_rendered
  · intro parts hparts
    refine (verdict_noPaint number hparts).iff fun answer hbroken => ?_
    rintro ⟨t, rfl⟩
    have hrendered : Rendered e.palette (.ok (.text t)) := .text t
    exact hbroken.not_rendered hrendered

theorem Reachable.after {s : Session} (h : s.Reachable) (commands : List Command) :
    (s.after commands).Reachable := by
  induction commands generalizing s with
  | nil => exact h
  | cons c more ih => exact ih (h.execute c)

/-- Two engines by one configuration, of which one sets a tag pattern that need not take part with its group,
and is refused one that has no group; and a builder with a word that means nothing. -/
def disputes : List Command := [
  .create "a".toList (.settings { enabled := some (.flag true) }),
  .create "b".toList (.shared "a".toList),
  .ask "b".toList (.set (.colorTag (.datum (.text "(x)?#".toList)))),
  .ask "b".toList (.set (.colorTag (.datum (.text "#".toList)))),
  .ask "a".toList (.palette (.set (.text "y".toList) (.text "1".toList))),
  .ask "a".toList (.style "s".toList [.text "bold nope".toList])]

/-- A value that raises an error when it is asked for its text. -/
def mute : Datum :=
  .object ⟨"Mute".toList, .ok "Mute()".toList, .error ⟨"RuntimeError".toList, "no text".toList⟩⟩

/-- After `disputes`, the first engine and its builder answer a text or a token that means nothing, styles
can be taken out, and what a value raises comes out. -/
theorem rendered_disputes : ∃ e, (empty.after disputes).engineAt? 0 = some e ∧
    e.config.colorTag.shownSource = "'(x)?#'".toList ∧ 0 < e.config.colorTag.groups ∧
    Rendered e.palette
      ((empty.after disputes).serve 0 e (.paint [.palette, .datum (.text "#x#".toList)])).answer ∧
    Rendered e.palette ((empty.after disputes).execute (.apply "s".toList [.builder "s".toList])).answer ∧
    (∃ t, ((empty.after disputes).serve 0 e (.noPaint [.palette, .datum (.text "#x#".toList)])).answer =
      .ok (.text t)) ∧
    (empty.after disputes).Broken e [.palette, .datum mute]
      ((empty.after disputes).serve 0 e (.rawPaint [.palette, .datum mute])).answer := by
  have htag : ((empty.after disputes).engineAt? 0).map
      (fun e => (e.config.colorTag.shownSource, e.config.colorTag.readsText)) =
        some ("'(x)?#'".toList, true) := by
    decide
  have hbuilder : (empty.after disputes).builder "s".toList = .ok (0, ⟨["bold".toList, "nope".toList]⟩) :=
    Engine.ok_of_toOption (by decide)
  obtain ⟨e, he, htag⟩ := Option.map_eq_some_iff.1 htag
  obtain ⟨hsource, hreads⟩ := Prod.mk.inj htag
  obtain ⟨⟨hgroups, -⟩, hserve, happly, hplain⟩ := (Reachable.empty.after disputes).rendered he
  have hpresent : ∀ d, (empty.after disputes).Present [.palette, .datum d] := by
    intro d name hname
    simp at hname
  have hworded : (empty.after disputes).Worded e [.palette, .datum (.text "#x#".toList)] :=
    List.forall_mem_cons.2 ⟨⟨_, _, rfl, rfl⟩, List.forall_mem_singleton.2 ⟨_, _, rfl, rfl⟩⟩
  have hmute : ¬ (empty.after disputes).Worded e [.palette, .datum mute] :=
    Raises.not_worded ⟨[.palette], .datum mute, [], mute, rfl,
      List.forall_mem_singleton.2 ⟨_, _, rfl, rfl⟩, rfl, rfl⟩
  have hshown : (empty.after disputes).Present [.builder "s".toList] := by
    intro name hname
    cases List.mem_singleton.1 hname
    exact ⟨_, hbuilder⟩
  obtain ⟨hpainted, -⟩ := hserve (.paint [.palette, .datum (.text "#x#".toList)]) rfl (hpresent _)
  obtain ⟨hmuted, hbroken⟩ := hserve (.rawPaint [.palette, .datum mute]) rfl (hpresent _)
  obtain ⟨happlied, -⟩ := happly _ _ _ hbuilder hshown
  obtain ⟨hleft, -⟩ := hplain [.palette, .datum (.text "#x#".toList)] (hpresent _)
  exact ⟨e, he, hsource, hgroups, hpainted.2 ⟨hworded, fun _ => hreads⟩,
    happlied.2 ⟨_, rfl, .inr (.inr hreads)⟩, hleft.2 ⟨hworded, hreads⟩,
    hbroken.resolve_left fun hrendered => hmute (hmuted.1 hrendered).1⟩

/-- A pattern over bytes, written as the standard one is. -/
def overBytes : ColorTag :=
  .binary ⟨[92, 36, 92, 123, 40, 91, 94, 123, 125, 93, 42, 41, 92, 125], {}, 1⟩

/-- An engine that is made with this pattern for its tags, and a builder of it. -/
def bytewise : List Command := [
  .create "a".toList (.settings { colorTag := some (.compiled overBytes) }),
  .ask "a".toList (.style "s".toList [.text "bold".toList])]

/-- **A pattern over bytes is accepted, and then no text can be painted,** and no styles can be taken out of
one: the failure is none of an expression. -/
theorem not_rendered_overBytes : ∃ e, (empty.after bytewise).engineAt? 0 = some e ∧
    e.config.colorTag = overBytes ∧ 0 < e.config.colorTag.groups ∧
    (∀ request ∈ [Request.paint [.datum (.text "x".toList)], .rawPaint [.datum (.text "x".toList)],
        .noPaint [.datum (.text "x".toList)]],
      ((empty.after bytewise).serve 0 e request).answer = .error (.engine .unreadable)) ∧
    ((empty.after bytewise).execute (.apply "s".toList [.datum (.text "x".toList)])).answer =
      .error (.engine .unreadable) ∧
    ¬ Rendered e.palette (.error (.engine .unreadable)) := by
  refine ⟨_, rfl, rfl, by decide, ?_, rfl, fun h => by cases h⟩
  simp only [List.forall_mem_cons]
  exact ⟨rfl, rfl, rfl, fun _ h => absurd h List.not_mem_nil⟩

end Session
end TermStyle
