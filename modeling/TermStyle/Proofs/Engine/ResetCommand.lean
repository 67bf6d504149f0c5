/-
# How long the reset command resolves

The reset command is tried out when it is set, under the palette of that moment.  Later the palette
can change, and the command is not looked at again.  Names that are written can do no harm, whatever
their values; a name that is taken out can be one that the command needs (`Expression.Needs`).

So one step leaves a reset command that resolves exactly if it takes out no name that the command
needs (`Step.resets_iff`), and a run of operations does so exactly if each of them does
(`Reachable.resets_along_iff`).  Only a few operations take names out at all (`Operation.takesOut`), and
`not_resets_forgotten` is the shortest run with one that the command does not survive.

As long as it resolves, and texts can be searched with the tag pattern, painting fails only where a tag
of the text does (`Coherent.hit_of_paint_error`).
-/

import Mathlib.Data.List.Chain
import TermStyle.Proofs.Engine.Operations
import TermStyle.Proofs.Engine.Painting
import TermStyle.Proofs.Expression.Tokens

namespace TermStyle

set_option maxRecDepth 4000

namespace Engine

/-- Whether the reset command resolves. -/
def Resets (e : Engine) : Prop := ∃ sequence, e.resetSequence.1 = .ok sequence

/-- Whether every name of one palette that the reset command needs is in the next palette. -/
def KeepsNeeded (e f : Engine) : Prop :=
  ∀ name, Expression.Needs e.config.resetCommand name → name ∈ e.palette.keys → name ∈ f.palette.keys

/-- **The reset command resolves exactly if the palette has the names that it needs.** -/
theorem Coherent.resets_iff {e : Engine} (he : e.Coherent) :
    e.Resets ↔ ∀ name, Expression.Needs e.config.resetCommand name → name ∈ e.palette.keys := by
  rw [← Expression.resolves_iff_needs, Resets, resetSequence, he.fst_resolve, resolved]
  constructor
  · rintro ⟨_, hshown⟩
    obtain ⟨sequence, hsequence, -⟩ := map_eq_ok_iff.1 hshown
    exact ⟨sequence, found_eq_ok_iff.1 hsequence⟩
  · rintro ⟨sequence, hsequence⟩
    exact ⟨_, map_eq_ok_iff.2 ⟨sequence, found_eq_ok_iff.2 hsequence, rfl⟩⟩

/-- A step leaves the reset command as it is, or sets one that resolves. -/
theorem Step.resetCommand_cases {e f : Engine} (h : Step e f) :
    f.config.resetCommand = e.config.resetCommand ∨
      f.palette = e.palette ∧ ∃ sequence, Expression.resolve f.palette f.config.resetCommand = .ok sequence := by
  cases h with
  | draw hl => exact .inl (by rw [hl.sameButCache.1])
  | set setting =>
    rcases e.set_cases setting with ⟨r, hset⟩ | ⟨f, log, hchanges, hset⟩
    · exact .inl (by rw [hset])
    · rw [hset]
      cases hchanges with
      | enabled | htmlTags | cache | colorTag => exact .inl rfl
      | resetCommand hresolves => exact .inr ⟨rfl, _, hresolves⟩
  | setup =>
    unfold Engine.setup
    split <;> exact .inl rfl
  | askPalette request =>
    simp only [Engine.askPalette]
    split <;> exact .inl rfl

/-- **What a step does to a reset command that resolves:** it still does, exactly if no name that it
needs has been taken out. -/
theorem Step.resets_iff {e f : Engine} (h : Step e f) (he : e.Coherent) (hreset : e.Resets) :
    f.Resets ↔ KeepsNeeded e f := by
  rw [(he.step h).resets_iff]
  rcases h.resetCommand_cases with hsame | ⟨hpalette, hresolves⟩
  · rw [hsame]
    constructor
    · exact fun hneeds name hname _ => hneeds name hname
    · exact fun hkeeps name hname => hkeeps name hname (he.resets_iff.1 hreset name hname)
  · exact iff_of_true (Expression.resolves_iff_needs.1 hresolves) fun name _ hmem => hpalette ▸ hmem

theorem map_eq_error_iff {ε α β : Type} {f : α → β} {x : Except ε α} {u : ε} :
    x.map f = .error u ↔ x = .error u := by
  cases x <;> simp [Except.map]

/-- Tags are replaced, unless the expression of one of them does not resolve. -/
theorem hit_of_tagged_error {e : Engine} {pieces : List Text.Piece} {r : Refusal}
    (h : e.tagged pieces = .error r) :
    ∃ matched groups, .hit matched groups ∈ pieces ∧
      e.resolved (ColorTag.expression groups) = .error r := by
  induction pieces with
  | nil => cases h
  | cons p more ih =>
    cases p with
    | plain c =>
      obtain ⟨matched, groups, hmem, hr⟩ := ih (map_eq_error_iff.1 h)
      exact ⟨matched, groups, List.mem_cons_of_mem _ hmem, hr⟩
    | hit matched groups =>
      simp only [Engine.tagged] at h
      split at h
      · rename_i hresolved
        cases h
        exact ⟨matched, groups, List.mem_cons_self .., hresolved⟩
      · obtain ⟨matched', groups', hmem, hr⟩ := ih (map_eq_error_iff.1 h)
        exact ⟨matched', groups', List.mem_cons_of_mem _ hmem, hr⟩

/-- **As long as the reset command resolves, painting fails only because of a tag of the text,** where
the text can be searched. -/
theorem Coherent.hit_of_paint_error {e : Engine} (he : e.Coherent) (hreset : e.Resets)
    (hreads : e.config.colorTag.readsText = true) {t : Text} {r : Refusal}
    (h : (e.paint t).1 = .error r) :
    ∃ matched groups, .hit matched groups ∈ Text.pieces e.config.colorTag.scan t ∧
      (e.resolve (ColorTag.expression groups)).1 = .error r := by
  obtain ⟨reset, hreset⟩ := hreset
  rw [resetSequence, he.fst_resolve] at hreset
  rw [he.fst_paint, painted, rawPainted_eq hreads, hreset] at h
  simp only [he.fst_resolve]
  split at h
  · rename_i hraw
    cases h
    exact hit_of_tagged_error (map_eq_error_iff.1 hraw)
  · cases h

theorem Coherent.forall_resets_iff {e : Engine} (he : e.Coherent) (hreset : e.Resets)
    (operations : List Operation) :
    (∀ f ∈ e.along operations, f.Resets) ↔ (e :: e.along operations).IsChain KeepsNeeded := by
  induction operations generalizing e with
  | nil => exact ⟨fun _ => List.isChain_singleton e, fun _ _ hf => absurd hf List.not_mem_nil⟩
  | cons operation more ih =>
    have hstep := e.step_operate operation
    have hiff := hstep.resets_iff he hreset
    rw [Engine.along, List.isChain_cons_cons, List.forall_mem_cons, hiff]
    exact and_congr_right fun hkeeps => ih (he.step hstep) (hiff.2 hkeeps)

/-- **How long the reset command resolves.**  Begin with an engine that can be reached, with a reset
command that resolves, and take any operations.  In all states after them it resolves exactly if none of
them takes out a name that the command of that moment needs.  Only four requests to the palette take
names out; any other operation, in any of these states, leaves all names in, and leaves a reset command
that resolves.  In every state in which it resolves, and in which the tag pattern can search a text,
painting fails only with what an inline tag of the text fails with. -/
theorem Reachable.resets_along_iff {e : Engine} (he : e.Reachable) (hreset : e.Resets)
    (operations : List Operation) :
    ((∀ f ∈ e.along operations, f.Resets) ↔ (e :: e.along operations).IsChain KeepsNeeded) ∧
    (∀ f ∈ e :: e.along operations, ∀ operation, operation.takesOut = false →
      f.palette.keys ⊆ (f.operate operation).palette.keys ∧ (f.Resets → (f.operate operation).Resets)) ∧
    ∀ f ∈ e :: e.along operations, f.Resets → f.config.colorTag.readsText = true →
      ∀ t r, (f.paint t).1 = .error r →
        ∃ matched groups, .hit matched groups ∈ Text.pieces f.config.colorTag.scan t ∧
          (f.resolve (ColorTag.expression groups)).1 = .error r := by
  have hcoherent := he.coherent.along operations
  refine ⟨he.coherent.forall_resets_iff hreset operations, fun f hf operation hkeeps => ?_,
    fun f hf hresets hreads t r => (hcoherent f hf).hit_of_paint_error hresets hreads⟩
  have hkeys := f.keys_subset_operate hkeeps
  refine ⟨hkeys, fun hresets => ?_⟩
  exact ((f.step_operate operation).resets_iff (hcoherent f hf) hresets).2 fun name _ hname => hkeys hname

/-- An engine with a name of its own in the reset command. -/
def relying : Engine where
  config := { Config.standard with
    resetCommand := "plain".toList
    entries := [(.text "plain".toList, .text "0".toList)] }
  palette := [("plain".toList, "0".toList)]
  cache := .new (some 1024)

theorem reachable_relying : relying.Reachable := .made
  { resetCommand := some (.text "plain".toList)
    entries := [(.text "plain".toList, .text "0".toList)] } rfl rfl

theorem resets_relying : relying.Resets := by
  have htokens : Expression.tokens relying.config.resetCommand = ["plain".toList] := by decide
  rw [reachable_relying.coherent.resets_iff]
  rintro name ⟨hname, -⟩
  rw [htokens] at hname
  exact hname

/-- The operation that takes the name out. -/
def forgetting : Operation := .palette (.delete (.text "plain".toList))

/-- **The reset command does not resolve for ever:** its name is taken out of the palette, and then
even the empty text cannot be painted. -/
theorem not_resets_forgotten : relying.Reachable ∧ relying.Resets ∧ forgetting.takesOut = true ∧
    ((relying.operate forgetting).paint []).1 =
      .error (.unresolvable ⟨"plain".toList, "plain".toList⟩) ∧
    ¬ (relying.operate forgetting).Resets := by
  have hpaint : ((relying.operate forgetting).paint []).1 =
      .error (.unresolvable ⟨"plain".toList, "plain".toList⟩) := by decide
  refine ⟨reachable_relying, resets_relying, rfl, hpaint, fun hreset => ?_⟩
  have hcoherent := reachable_relying.coherent.step (relying.step_operate forgetting)
  obtain ⟨_, _, hmem, -⟩ := hcoherent.hit_of_paint_error hreset rfl hpaint
  have hpieces : Text.pieces (relying.operate forgetting).config.colorTag.scan [] = [] := by decide
  rw [hpieces] at hmem
  cases hmem

/-- Operations that write the name once more and enable rendering. -/
def rewriting : List Operation :=
  [.palette (.set (.text "plain".toList) (.text "0;10".toList)), .setup]

/-- To write the name and to enable rendering keep the reset command. -/
theorem resets_along_rewriting : relying.Reachable ∧ relying.Resets ∧
    ∀ f ∈ relying.along rewriting, f.Resets := by
  refine ⟨reachable_relying, resets_relying, ?_⟩
  have hkeeps : (relying :: relying.along rewriting).IsChain KeepsNeeded :=
    .cons_cons (fun _ _ h => h) (.cons_cons (fun _ _ h => h) (.singleton _))
  exact (reachable_relying.resets_along_iff resets_relying rewriting).1.2 hkeeps

end Engine
end TermStyle
