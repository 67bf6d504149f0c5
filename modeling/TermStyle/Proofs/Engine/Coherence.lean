/-
# Caches that agree with their palette

What an engine draws should depend on its configuration and its palette and on nothing else, so it
should make no difference what the cache holds.  The second half of this is a definition: `resolved`,
`tagged`, `rawPainted`, `painted` and `paintedStyled` say what is drawn when every expression is
resolved anew.

The first half holds of coherent caches, in which every entry is what its key resolves to under
the present palette (`Engine.Coherent`).  A coherent engine draws what is said here
(`Coherent.fst_resolve` to `Coherent.fst_paintStyled`), and every engine that can be reached is
coherent (`Engine.Reachable.coherent`): looking up adds only what was resolved, and whatever else
could make an entry stale clears the cache.
-/

import TermStyle.Proofs.Session.Reachable

namespace TermStyle

namespace Cache

variable {κ β ε : Type}

/-- Whether every entry is what the computation gives for its key. -/
def Coherent (c : Cache κ β) (compute : κ → Except ε β) : Prop :=
  ∀ key value, (key, value) ∈ c.entries → compute key = .ok value

theorem coherent_new (limit : Option Int) (compute : κ → Except ε β) :
    (new limit : Cache κ β).Coherent compute :=
  fun _ _ h => absurd h List.not_mem_nil

variable [BEq κ] [LawfulBEq κ]

/-- **A coherent cache answers as the computation does.** -/
theorem Coherent.fst_get {c : Cache κ β} {compute : κ → Except ε β} (h : c.Coherent compute)
    (key : κ) : (c.get compute key).1 = compute key := by
  cases hf : c.find? key with
  | some value =>
    rw [get_of_find? hf]
    exact (h key value (OrderedMap.mem_of_get? hf)).symm
  | none => exact get_of_absent hf compute

/-- **What a lookup leaves in a cache** was there, or was computed. -/
theorem mem_entries_get {c : Cache κ β} {compute : κ → Except ε β} {key : κ} {entry : κ × β}
    (h : entry ∈ (c.get compute key).2.entries) : entry ∈ c.entries ∨ compute entry.1 = .ok entry.2 := by
  cases hf : c.find? key with
  | some value =>
    rw [get_of_find? hf] at h
    rcases List.mem_cons.1 h with rfl | hold
    · exact .inl (OrderedMap.mem_of_get? hf)
    · exact .inl ((OrderedMap.erase_sublist _ _).subset hold)
  | none =>
    cases hk : compute key with
    | error u =>
      simp only [Cache.get, hf, hk] at h
      exact .inl h
    | ok value =>
      simp only [Cache.get, hf, hk] at h
      rcases List.mem_cons.1 (mem_of_mem_kept h) with rfl | hold
      · exact .inr hk
      · exact .inl hold

/-- **A lookup keeps a cache coherent.** -/
theorem Coherent.get {c : Cache κ β} {compute : κ → Except ε β} (h : c.Coherent compute) (key : κ) :
    (c.get compute key).2.Coherent compute :=
  fun k v hkv => (mem_entries_get hkv).elim (h k v) id

end Cache

namespace Engine

/-- Whether the cache holds only what its keys resolve to under the palette. -/
def Coherent (e : Engine) : Prop := e.cache.Coherent (Expression.resolve e.palette)

theorem Coherent.lookUp {e : Engine} (h : e.Coherent) (x : Text) : (e.lookUp x).2.Coherent := by
  unfold Engine.lookUp
  split
  · exact Cache.Coherent.get h x
  · exact h

theorem Coherent.lookUps {e f : Engine} (h : e.Coherent) (hl : LookUps e f) : f.Coherent := by
  induction hl with
  | none => exact h
  | more x _ ih => exact ih (h.lookUp x)

/-- **A step keeps an engine coherent.** -/
theorem Coherent.step {e f : Engine} (h : e.Coherent) (hstep : Step e f) : f.Coherent := by
  unfold Coherent
  rcases hstep.cases with hl | ⟨hpalette, hcache⟩ | ⟨_, hcache⟩
  · exact h.lookUps hl
  · rw [hpalette, hcache]
    exact h
  · rw [hcache]
    exact Cache.coherent_new _ _

/-- **Every engine that can be reached is coherent.** -/
theorem Reachable.coherent {e : Engine} (h : e.Reachable) : e.Coherent := by
  refine h.induction (P := fun palette cache => cache.Coherent (Expression.resolve palette)) ?_ ?_
  · intro config e hnew
    rw [(new_cases hnew).2.2]
    exact Cache.coherent_new _ _
  · intro e f hstep he
    exact Coherent.step he hstep

/-- What an expression shows when it is resolved anew. -/
def resolved (e : Engine) (x : Text) : Except Refusal Text := (e.found x).map e.visible

/-- The text of pieces, each inline tag replaced by what its expression shows when it is resolved
anew. -/
def tagged (e : Engine) : List Text.Piece → Except Refusal Text
  | [] => .ok []
  | .plain c :: more => (e.tagged more).map (c :: ·)
  | .hit _ groups :: more =>
    match e.resolved (ColorTag.expression groups) with
    | .error u => .error u
    | .ok sequence => (e.tagged more).map (sequence ++ ·)

/-- What `rawPaint` gives when every expression is resolved anew. -/
def rawPainted (e : Engine) (t : Text) : Except Refusal Text :=
  if e.config.colorTag.readsText then
    (e.tagged (Text.pieces e.config.colorTag.scan t)).map (e.bridge e.config.enabled)
  else .error .unreadable

theorem rawPainted_eq {e : Engine} (h : e.config.colorTag.readsText = true) (t : Text) :
    e.rawPainted t = (e.tagged (Text.pieces e.config.colorTag.scan t)).map (e.bridge e.config.enabled) :=
  if_pos h

/-- What `paint` gives when every expression is resolved anew. -/
def painted (e : Engine) (t : Text) : Except Refusal Text :=
  match e.rawPainted t with
  | .error u => .error u
  | .ok text =>
    (e.resolved e.config.resetCommand).map fun reset =>
      if text.isEmpty then reset else reset ++ text ++ reset

/-- What `paintStyled` gives when every expression is resolved anew. -/
def paintedStyled (e : Engine) (x t : Text) : Except Refusal Text :=
  if t.isEmpty then e.resolved e.config.resetCommand
  else
    match e.resolved x with
    | .error u => .error u
    | .ok sequence => e.painted (sequence ++ t)

section Congruence

variable {e f : Engine} (h : SameButCache e f)
include h

theorem SameButCache.visible : f.visible = e.visible := by
  funext s
  simp only [Engine.visible, h.1]

theorem SameButCache.bridge : f.bridge = e.bridge := by
  funext colorize t
  simp only [Engine.bridge, h.1]

theorem SameButCache.noPaint (t : Text) : f.noPaint t = e.noPaint t := by
  simp only [Engine.noPaint, h.1, h.bridge]

theorem SameButCache.resolved (x : Text) : f.resolved x = e.resolved x := by
  rw [Engine.resolved, Engine.resolved, Engine.found, Engine.found, h.visible, h.2]

theorem SameButCache.tagged (pieces : List Text.Piece) : f.tagged pieces = e.tagged pieces := by
  induction pieces with
  | nil => rfl
  | cons p more ih =>
    cases p with
    | plain c => simp only [Engine.tagged, ih]
    | hit matched groups => simp only [Engine.tagged, ih, h.resolved]

theorem SameButCache.rawPainted (t : Text) : f.rawPainted t = e.rawPainted t := by
  simp only [Engine.rawPainted, h.1, h.bridge, h.tagged]

theorem SameButCache.painted (t : Text) : f.painted t = e.painted t := by
  simp only [Engine.painted, h.1, h.rawPainted, h.resolved]

theorem SameButCache.paintedStyled (x t : Text) : f.paintedStyled x t = e.paintedStyled x t := by
  simp only [Engine.paintedStyled, h.1, h.painted, h.resolved]

end Congruence

theorem Coherent.fst_lookUp {e : Engine} (h : e.Coherent) (x : Text) :
    (e.lookUp x).1 = e.found x := by
  unfold Engine.lookUp
  split
  · exact congrArg (Except.mapError Refusal.unresolvable) (Cache.Coherent.fst_get h x)
  · rfl

theorem Coherent.fst_resolve {e : Engine} (h : e.Coherent) (x : Text) :
    (e.resolve x).1 = e.resolved x := by
  have hl := h.fst_lookUp x
  unfold Engine.resolve resolved
  split <;> rename_i heq <;> rw [heq] at hl <;> rw [← hl] <;> rfl

theorem Coherent.fst_replaceTags {e : Engine} (h : e.Coherent) (pieces : List Text.Piece) :
    (e.replaceTags pieces).1 = e.tagged pieces := by
  induction pieces generalizing e with
  | nil => rfl
  | cons p more ih =>
    cases p with
    | plain c =>
      simp only [replaceTags, tagged, ← ih h]
      split <;> rename_i heq <;> rw [heq] <;> rfl
    | hit matched groups =>
      have hr := h.fst_resolve (ColorTag.expression groups)
      have hl := lookUps_resolve e (ColorTag.expression groups)
      simp only [replaceTags, tagged, ← hr]
      split <;> rename_i after heq <;> rw [heq] at hl <;> rw [heq]
      rw [← hl.sameButCache.tagged, ← ih (h.lookUps hl)]
      dsimp only
      split <;> rename_i heq2 <;> rw [heq2] <;> rfl

theorem Coherent.fst_rawPaint {e : Engine} (h : e.Coherent) (t : Text) :
    (e.rawPaint t).1 = e.rawPainted t := by
  simp only [rawPaint, rawPainted, ← h.fst_replaceTags]
  split
  · split <;> rename_i heq <;> rw [heq] <;> rfl
  · rfl

/-- **A coherent engine paints as if there were no cache.** -/
theorem Coherent.fst_paint {e : Engine} (h : e.Coherent) (t : Text) :
    (e.paint t).1 = e.painted t := by
  have hl := lookUps_rawPaint e t
  simp only [paint, painted, ← h.fst_rawPaint]
  split <;> rename_i after heq <;> rw [heq] at hl <;> rw [heq]
  have hr := (h.lookUps hl).fst_resolve after.config.resetCommand
  rw [hl.sameButCache.resolved, hl.sameButCache.1] at hr
  rw [resetSequence, ← hr]
  rw [hl.sameButCache.1]
  split <;> rename_i heq2 <;> rw [heq2] <;> rfl

theorem Coherent.fst_paintStyled {e : Engine} (h : e.Coherent) (x t : Text) :
    (e.paintStyled x t).1 = e.paintedStyled x t := by
  unfold paintStyled paintedStyled
  split
  · exact h.fst_resolve e.config.resetCommand
  · have hl := lookUps_resolve e x
    simp only [← h.fst_resolve]
    split <;> rename_i after heq <;> rw [heq] at hl <;> rw [heq]
    rw [(h.lookUps hl).fst_paint, hl.sameButCache.painted]

end Engine
end TermStyle
