/-
# Switching rendering off

An engine with rendering switched off resolves the same expressions and shows nothing of them, so it
paints the plain text (`painted_of_disabled`): a text that can be painted with colors can be painted
without.

Where markup is bridged, the two need not show the same text.  Inline tags are replaced before markup
is looked for, so a sequence can get between the brackets of a known tag.  With rendering off nothing
gets there, and the tag is consumed:

| text | enabled, sequences stripped | disabled |
| --- | --- | --- |
| `<b>${bold}x` | `x` | `x` |
| `<${bold}b>x` | `<b>x` | `x` |

`Reachable.strip_paint_eq_iff` says that this is the only difference there is.
-/

import TermStyle.Proofs.Engine.Painting
import TermStyle.Proofs.Markup.Severed

namespace TermStyle
namespace Engine

section Disabled

variable {e f : Engine} (hdisabled : f.config.enabled = false) (hpalette : f.palette = e.palette)
include hdisabled hpalette

/-- What resolves shows nothing where rendering is off. -/
theorem resolved_of_disabled {x shown : Text} (h : e.resolved x = .ok shown) : f.resolved x = .ok [] := by
  obtain ⟨sequence, hsequence, -⟩ := map_eq_ok_iff.1 h
  refine map_eq_ok_iff.2 ⟨sequence, ?_, ?_⟩
  · rw [found, hpalette]
    exact hsequence
  · rw [visible, hdisabled, if_neg Bool.false_ne_true]

/-- Tags that resolve are taken out where rendering is off. -/
theorem tagged_of_disabled {pieces : List Text.Piece} {tagged : Text} (h : e.tagged pieces = .ok tagged) :
    f.tagged pieces = .ok (pieces.flatMap (Text.Piece.replaced fun _ _ => [])) := by
  induction pieces generalizing tagged with
  | nil => rfl
  | cons p more ih =>
    cases p with
    | plain c =>
      obtain ⟨rest, hrest, -⟩ := map_eq_ok_iff.1 h
      exact map_eq_ok_iff.2 ⟨_, ih hrest, rfl⟩
    | hit matched groups =>
      simp only [Engine.tagged] at h ⊢
      split at h
      · cases h
      · rename_i shown hshown
        obtain ⟨rest, hrest, -⟩ := map_eq_ok_iff.1 h
        rw [resolved_of_disabled hdisabled hpalette hshown]
        exact map_eq_ok_iff.2 ⟨_, ih hrest, rfl⟩

/-- **With rendering off, what can be painted is painted without any sequence.** -/
theorem painted_of_disabled (htag : f.config.colorTag = e.config.colorTag)
    (hreset : f.config.resetCommand = e.config.resetCommand) {t painted : Text}
    (h : e.painted t = .ok painted) :
    f.painted t = .ok (f.bridge false (Text.strip e.config.colorTag.scan t)) := by
  obtain ⟨hreads, tagged, reset, htagged, hresolved, -⟩ := painted_eq_ok_iff.1 h
  refine painted_eq_ok_iff.2 ⟨htag ▸ hreads, Text.strip e.config.colorTag.scan t, [], ?_, ?_, ?_⟩
  · rw [htag]
    exact tagged_of_disabled hdisabled hpalette htagged
  · rw [hreset]
    exact resolved_of_disabled hdisabled hpalette hresolved
  · rw [hdisabled]
    split
    · rename_i hempty
      exact List.isEmpty_iff.1 hempty
    · rw [List.nil_append, List.append_nil]

end Disabled

/-- **Enabled and disabled, an engine that bridges markup shows the same text exactly where no known
tag is severed** by the sequences that stand in the place of inline tags.  Where the one can paint,
the other can. -/
theorem Reachable.strip_paint_eq_iff {e f : Engine} (he : e.Reachable) (hf : f.Reachable)
    (hconfig : f.config = { e.config with enabled := false }) (hpalette : f.palette = e.palette)
    (henabled : e.config.enabled = true) (hhtml : e.config.htmlTags = true) {t painted : Text}
    (ht : Sgr.escape ∉ t) (hpaint : (e.paint t).1 = .ok painted) :
    ∃ tagged plain, (e.replaceTags (Text.pieces e.config.colorTag.scan t)).1 = .ok tagged ∧
      (f.paint t).1 = .ok plain ∧ (Sgr.strip painted = plain ↔ ¬ Markup.Severed tagged) := by
  rw [he.coherent.fst_paint] at hpaint
  have hbridge : ∀ colorize u, e.bridge colorize u = Markup.bridge colorize u := by
    intro colorize u
    rw [bridge, if_pos hhtml]
  have hbridge' : f.bridge = e.bridge := by
    funext colorize u
    rw [bridge, bridge, hconfig]
  obtain ⟨tagged, htagged, hstrip⟩ := he.showsStyles.strip_painted hpaint
  have hplain := painted_of_disabled (by rw [hconfig]) hpalette (by rw [hconfig]) (by rw [hconfig]) hpaint
  refine ⟨tagged, _, by rw [he.coherent.fst_replaceTags, htagged], hf.coherent.fst_paint t ▸ hplain, ?_⟩
  have hstrewn : Text.Strewn Sgr.IsSequence (Text.strip e.config.colorTag.scan t) tagged :=
    he.showsStyles.strewn_tagged htagged
  rw [hstrip, hbridge', hbridge, hbridge, henabled]
  exact (Markup.visible_strewn hstrewn fun hc => ht (Text.mem_of_mem_strip hc)).2

/-- Engines that bridge markup, with rendering on or off. -/
def bridging (enabled : Bool) : Engine where
  config := { Config.standard with enabled := enabled, htmlTags := true }
  palette := []
  cache := .new (some 1024)

theorem reachable_bridging (enabled : Bool) : (bridging enabled).Reachable :=
  .made { enabled := some (.flag enabled), htmlTags := some (.flag true) } rfl rfl

/-- **What can be read depends on whether rendering is enabled,** where an inline tag stands inside of
a known one. -/
theorem strip_paint_ne_severed : (bridging true).Reachable ∧ (bridging false).Reachable ∧
    ∃ painted plain, ((bridging true).paint "<${bold}b>x".toList).1 = .ok painted ∧
      ((bridging false).paint "<${bold}b>x".toList).1 = .ok plain ∧
      Sgr.strip painted = "<b>x".toList ∧ plain = "x".toList := by
  have hpainted : ((bridging true).paint "<${bold}b>x".toList).1.toOption =
      some (Sgr.sequence ["0".toList, "10".toList] ++ '<' :: Sgr.sequence ["1".toList] ++
        "b>x".toList ++ Sgr.sequence ["0".toList, "10".toList]) := by
    decide
  have hplain : ((bridging false).paint "<${bold}b>x".toList).1.toOption = some "x".toList := by
    decide
  exact ⟨reachable_bridging true, reachable_bridging false, _, _, ok_of_toOption hpainted,
    ok_of_toOption hplain, by decide, rfl⟩

/-- A text with the inline tag behind the known one, which both engines show in the same way. -/
theorem strip_paint_eq_behind :
    ∃ painted, ((bridging true).paint "<b>${bold}x".toList).1 = .ok painted ∧
      ∃ tagged plain, ((bridging true).replaceTags
          (Text.pieces (bridging true).config.colorTag.scan "<b>${bold}x".toList)).1 = .ok tagged ∧
        ((bridging false).paint "<b>${bold}x".toList).1 = .ok plain ∧
        (Sgr.strip painted = plain ↔ ¬ Markup.Severed tagged) := by
  have hpainted : ((bridging true).paint "<b>${bold}x".toList).1.toOption =
      some (Sgr.sequence ["0".toList, "10".toList] ++ Sgr.sequence ["1".toList] ++
        Sgr.sequence ["1".toList] ++ ['x'] ++ Sgr.sequence ["0".toList, "10".toList]) := by
    decide
  exact ⟨_, ok_of_toOption hpainted,
    (reachable_bridging true).strip_paint_eq_iff (reachable_bridging false) rfl rfl rfl rfl (by decide)
      (ok_of_toOption hpainted)⟩

end Engine
end TermStyle
