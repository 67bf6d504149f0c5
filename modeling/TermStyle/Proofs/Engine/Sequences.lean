/-
# What an engine shows of an expression

A terminal that reads half a sequence, or one with a parameter missing, draws what nobody asked for.
What an engine resolves is written by one function, but the parameters in it come from four places:
the attribute table, the palette, true colors and raw parameters.  Each of them gives parameters that
are not empty and hold no other characters than a sequence may (`Expression.sequence_cases_of_resolve`),
whatever was written into the palette before, so what is shown is nothing or one whole sequence.

Nothing is shown where rendering is off, and where every token of the expression deliberately stands
for no parameter (`Expression.IsSilent`).
-/

import TermStyle.Proofs.Engine.Painting

namespace TermStyle

set_option maxRecDepth 4000
namespace Engine

theorem visible_eq_nil_iff {e : Engine} {sequence : Text} :
    e.visible sequence = [] ↔ e.config.enabled = false ∨ sequence = [] := by
  unfold visible
  cases e.config.enabled <;> simp

/-- **What an engine resolves is nothing or one whole sequence,** with a parameter that is not empty,
in every state that can be reached.  It is nothing exactly where rendering is off or where every token
is silent: a reserved keyword, or a name of the palette that is switched off and no keyword. -/
theorem Reachable.resolve_cases {e : Engine} (he : e.Reachable) {x shown : Text}
    (h : (e.resolve x).1 = .ok shown) :
    (shown = [] ∨ Text.matchWhole Sgr.scan shown = some [] ∧
      ∃ p, Sgr.IsParameter p ∧ shown = Sgr.escape :: '[' :: (p ++ ['m'])) ∧
    (shown = [] ↔ e.config.enabled = false ∨
      ∀ token ∈ Expression.tokens x, Expression.IsSilent Attribute.table e.palette token) := by
  rw [he.coherent.fst_resolve] at h
  obtain ⟨sequence, hfound, rfl⟩ := map_eq_ok_iff.1 h
  have hsequence := found_eq_ok_iff.1 hfound
  constructor
  · rcases Expression.sequence_cases_of_resolve he.sound hsequence with rfl | ⟨p, hp, rfl⟩
    · exact .inl (visible_eq_nil_iff.2 (.inr rfl))
    · cases henabled : e.config.enabled with
      | false => exact .inl (visible_eq_nil_iff.2 (.inl henabled))
      | true =>
        rw [visible, if_pos henabled]
        exact .inr ⟨Sgr.finds_scan.matchWhole_eq_some_iff.2 ⟨⟨p, rfl, hp.2⟩, rfl⟩, p, hp, rfl⟩
  · rw [visible_eq_nil_iff, ← Expression.resolve_eq_nil_iff, hsequence, Except.ok.injEq]

/-- An engine that renders, with a name that is switched off. -/
def muting : Engine where
  config := { Config.standard with
    enabled := true
    entries := [(.text "mute".toList, .text [])] }
  palette := [("mute".toList, [])]
  cache := .new (some 1024)

/-- What it shows of two keywords, and of its name behind a reserved keyword. -/
theorem resolve_cases_muting : muting.Reachable ∧
    (muting.resolve "bold dim".toList).1 = .ok (Sgr.sequence ["1".toList, "2".toList]) ∧
    Text.matchWhole Sgr.scan (Sgr.sequence ["1".toList, "2".toList]) = some [] ∧
    (muting.resolve "on mute".toList).1 = .ok [] ∧
    ∀ token ∈ Expression.tokens "on mute".toList,
      Expression.IsSilent Attribute.table muting.palette token := by
  have hreach : muting.Reachable := .made
    { enabled := some (.flag true), entries := [(.text "mute".toList, .text [])] } rfl rfl
  have hloud : (muting.resolve "bold dim".toList).1.toOption =
      some (Sgr.sequence ["1".toList, "2".toList]) := by
    decide
  have hmute : (muting.resolve "on mute".toList).1.toOption = some [] := by
    decide
  have hwhole := (hreach.resolve_cases (ok_of_toOption hloud)).1
  have hsilent := (hreach.resolve_cases (ok_of_toOption hmute)).2.1 rfl
  exact ⟨hreach, ok_of_toOption hloud, (hwhole.resolve_left (List.cons_ne_nil _ _)).1,
    ok_of_toOption hmute, hsilent.resolve_left (Bool.false_ne_true ·.symm)⟩

end Engine
end TermStyle
