/-
# Drawing with rendering off

An engine with rendering off shows nothing of a sequence, so each inline tag that resolves is taken out,
and the reset command, if it resolves, puts nothing around the text.  What is left to `paint` and to
`rawPaint` is the bridge, which consumes the known tags (`Coherent.paint_of_disabled`).

This is also what `noPaint` does, but for one step: between the two it strips sequences that the text
brings along.

| operation | inline tags | sequences of the text | known tags |
| --- | --- | --- | --- |
| `rawPaint`, `paint` | resolved, to nothing | stay | consumed |
| `noPaint` | taken out | taken out | consumed |

Whether they agree is decided by the escape characters.  Known tags have none, so the bridge keeps each
one (`count_bridge`), and a stripped sequence has one less.  So all three agree exactly where no sequence
is left once the inline tags are gone (`Reachable.paint_eq_noPaint_iff`).
-/

import TermStyle.Proofs.Engine.Switching
import TermStyle.Proofs.Text.Rescan

namespace TermStyle

namespace Text

/-- To take out hits without a character leaves as many of it as there were. -/
theorem Scanner.Finds.count_strip {scan : Scanner} {form : Text → List (Option Text) → Prop}
    (h : scan.Finds form) {c : Char} (hform : ∀ w groups, form w groups → c ∉ w) (t : Text) :
    (strip scan t).count c = t.count c := by
  induction t using h.induction with
  | nil => rw [strip, h.replace_nil]
  | plain d rest hnot ih => rw [strip, h.replace_cons _ hnot, List.count_cons, List.count_cons, ← ih, strip]
  | hit w groups rest hw ih =>
    have hnone : w.count c = 0 := List.count_eq_zero_of_not_mem (hform w groups hw)
    rw [strip, h.replace_append_form _ hw, List.nil_append, List.count_append, hnone, Nat.zero_add, ← ih,
      strip]

end Text

namespace Sgr

/-- A sequence stands somewhere exactly if the scanner for sequences has something to find. -/
theorem occurs_iff_holds {t : Text} :
    Occurs t ↔ Text.Holds (fun w groups => IsSequence w ∧ groups = []) t := by
  constructor
  · rintro ⟨w, hw, hin⟩
    exact ⟨w, [], ⟨hw, rfl⟩, hin⟩
  · rintro ⟨w, _, ⟨hw, -⟩, hin⟩
    exact ⟨w, hw, hin⟩

/-- **Stripping leaves a text alone exactly if it has no sequence.** -/
theorem strip_eq_self_iff {t : Text} : strip t = t ↔ ¬ Occurs t := by
  rw [occurs_iff_holds]
  exact finds_scan.replace_eq_self_iff _ (fun _ _ hw => hw.1.escape_mem) fun _ _ _ => List.not_mem_nil

/-- **A text with a sequence has fewer escape characters when it is stripped.** -/
theorem count_strip_lt {t : Text} (ht : Occurs t) : (strip t).count escape < t.count escape :=
  (finds_scan.count_replace _ (fun _ _ hw => hw.1.escape_mem) (fun _ _ _ => List.not_mem_nil) t).2
    (occurs_iff_holds.1 ht)

end Sgr

namespace Engine

/-- The bridge leaves every escape character. -/
theorem count_bridge (e : Engine) (t : Text) :
    (e.bridge false t).count Sgr.escape = t.count Sgr.escape := by
  unfold bridge
  split
  · rw [Markup.bridge_false_eq_strip]
    exact Markup.finds_knownScan.count_strip (fun _ _ hw => hw.escape_not_mem) t
  · rfl

/-- **Stripping before the bridge changes what comes of it** exactly if there is a sequence. -/
theorem bridge_strip_eq_iff (e : Engine) (t : Text) :
    e.bridge false t = e.bridge false (Sgr.strip t) ↔ ¬ Sgr.Occurs t := by
  constructor
  · intro hsame hoccurs
    have hcount := congrArg (List.count Sgr.escape) hsame
    rw [count_bridge, count_bridge] at hcount
    have hfewer := Sgr.count_strip_lt hoccurs
    omega
  · intro hnone
    rw [Sgr.strip_eq_self_iff.2 hnone]

/-- **With rendering off the reset puts nothing around the text:** what is painted is the text without its
inline tags, bridged, and it is painted the same without the reset. -/
theorem Coherent.paint_of_disabled {e : Engine} (he : e.Coherent) (hoff : e.config.enabled = false)
    {t painted : Text} (hpaint : (e.paint t).1 = .ok painted) :
    painted = e.bridge false (Text.strip e.config.colorTag.scan t) ∧ (e.rawPaint t).1 = .ok painted := by
  rw [he.fst_paint] at hpaint
  obtain ⟨hreads, tagged, _, htagged, -, -⟩ := painted_eq_ok_iff.1 hpaint
  have hplain : painted = e.bridge false (Text.strip e.config.colorTag.scan t) :=
    Except.ok.inj (hpaint.symm.trans (painted_of_disabled hoff rfl rfl rfl hpaint))
  refine ⟨hplain, ?_⟩
  rw [he.fst_rawPaint, rawPainted_eq hreads, tagged_of_disabled hoff rfl htagged, hoff, hplain]
  rfl

/-- **With rendering off, painting and taking styles out agree** exactly where no sequence is left in the
text without its inline tags.  The text can be painted; then it is painted the same with and without the
reset, and `noPaint` gives this text if there is no sequence, and only then. -/
theorem Reachable.paint_eq_noPaint_iff {e : Engine} (he : e.Reachable) (hoff : e.config.enabled = false)
    {t painted : Text} (hpaint : (e.paint t).1 = .ok painted) :
    (e.rawPaint t).1 = .ok painted ∧
      (painted = e.noPaint t ↔ ¬ Sgr.Occurs (Text.strip e.config.colorTag.scan t)) := by
  obtain ⟨hplain, hraw⟩ := he.coherent.paint_of_disabled hoff hpaint
  refine ⟨hraw, ?_⟩
  rw [hplain, noPaint]
  exact e.bridge_strip_eq_iff _

/-- A text with an escape sequence that styles nothing, a known tag, and an inline tag inside of an unknown
one. -/
def cleared : Text := Sgr.escape :: "[2J<b>x<${dim}y>".toList

/-- Painting `cleared` and taking styles out of it agree: the escape sequence and the unknown tag stay. -/
theorem paint_eq_noPaint_cleared : (bridging false).Reachable ∧ (bridging false).config.enabled = false ∧
    ((bridging false).paint cleared).1 = .ok (Sgr.escape :: "[2Jx<y>".toList) ∧
    ((bridging false).rawPaint cleared).1 = .ok (Sgr.escape :: "[2Jx<y>".toList) ∧
    ¬ Sgr.Occurs (Text.strip (bridging false).config.colorTag.scan cleared) ∧
    Sgr.escape :: "[2Jx<y>".toList = (bridging false).noPaint cleared := by
  have hpaint : ((bridging false).paint cleared).1.toOption = some (Sgr.escape :: "[2Jx<y>".toList) := by
    decide
  have hnone : ¬ Sgr.Occurs (Text.strip (bridging false).config.colorTag.scan cleared) :=
    Sgr.strip_eq_self_iff.1 (by decide)
  obtain ⟨hraw, hiff⟩ := (reachable_bridging false).paint_eq_noPaint_iff rfl (ok_of_toOption hpaint)
  exact ⟨reachable_bridging false, rfl, ok_of_toOption hpaint, hraw, hnone, hiff.2 hnone⟩

end Engine
end TermStyle
