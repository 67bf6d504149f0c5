/-
# Painting adds only styling

Inline tags give way to styles and everything else stays, so what is painted is the text without its
inline tags with sequences strewn in (`ShowsStyles.strewn_tagged`).  The reset at both ends is a style
as well.  Where the text has no escape character of its own, the sequences in what is painted are
those that painting put there, and to strip them undoes it (`Reachable.strip_paint`).

What the tag pattern is makes no difference: the tags that `paint` replaces and those that `noPaint`
takes out are the hits of one scan.
-/

import TermStyle.Proofs.Engine.Coherence
import TermStyle.Proofs.Expression.Parameters

namespace TermStyle

set_option maxRecDepth 4000

namespace Text

/-- To take out hits brings in no character. -/
theorem mem_of_mem_strip {scan : Scanner} {t : Text} {c : Char} (hc : c ∈ strip scan t) : c ∈ t := by
  rw [← pieces_source scan t]
  obtain ⟨p, hp, hcp⟩ := List.mem_flatMap.1 hc
  refine List.mem_flatMap.2 ⟨p, hp, ?_⟩
  cases p with
  | plain d => exact hcp
  | hit matched groups => exact absurd hcp List.not_mem_nil

end Text

namespace Engine

open Text (Strewn)

theorem map_eq_ok_iff {ε α β : Type} {f : α → β} {x : Except ε α} {b : β} :
    x.map f = .ok b ↔ ∃ a, x = .ok a ∧ f a = b := by
  cases x <;> simp [Except.map]

theorem ok_of_toOption {ε α : Type} {x : Except ε α} {a : α} (h : x.toOption = some a) : x = .ok a := by
  cases x with
  | error u => cases h
  | ok b => exact congrArg Except.ok (Option.some.inj h)

/-- **Painting succeeds** where the text can be searched, every tag resolves and the reset command
does. -/
theorem painted_eq_ok_iff {e : Engine} {t painted : Text} :
    e.painted t = .ok painted ↔ e.config.colorTag.readsText = true ∧ ∃ tagged reset,
      e.tagged (Text.pieces e.config.colorTag.scan t) = .ok tagged ∧
        e.resolved e.config.resetCommand = .ok reset ∧
          painted = if (e.bridge e.config.enabled tagged).isEmpty then reset
            else reset ++ e.bridge e.config.enabled tagged ++ reset := by
  unfold Engine.painted rawPainted
  cases e.config.colorTag.readsText with
  | false => simp
  | true =>
    rw [if_pos rfl, and_iff_right rfl]
    cases e.tagged (Text.pieces e.config.colorTag.scan t) with
    | error r => simp [Except.map]
    | ok tagged =>
      simp only [Except.map]
      cases e.resolved e.config.resetCommand with
      | error r => simp
      | ok reset =>
        constructor
        · intro h
          cases h
          exact ⟨tagged, reset, rfl, rfl, rfl⟩
        · rintro ⟨_, _, htagged, hreset, rfl⟩
          cases htagged
          cases hreset
          rfl

/-- Whether all that is shown of expressions is styles. -/
def ShowsStyles (e : Engine) : Prop := ∀ x shown, e.resolved x = .ok shown → Sgr.IsStyle shown

/-- **An engine that can be reached shows nothing but styles.** -/
theorem Reachable.showsStyles {e : Engine} (h : e.Reachable) : e.ShowsStyles := by
  intro x shown hx
  obtain ⟨sequence, hsequence, rfl⟩ := map_eq_ok_iff.1 hx
  unfold visible
  split
  · exact Expression.isStyle_of_resolve h.sound (found_eq_ok_iff.1 hsequence)
  · exact .inl rfl

/-- **What stands in the place of tags is strewn into the rest of the text.** -/
theorem ShowsStyles.strewn_tagged {e : Engine} (h : e.ShowsStyles) {pieces : List Text.Piece}
    {tagged : Text} (ht : e.tagged pieces = .ok tagged) :
    Strewn Sgr.IsSequence (pieces.flatMap (Text.Piece.replaced fun _ _ => [])) tagged := by
  induction pieces generalizing tagged with
  | nil =>
    cases ht
    exact .nil
  | cons p more ih =>
    cases p with
    | plain c =>
      obtain ⟨rest, hrest, rfl⟩ := map_eq_ok_iff.1 ht
      exact .char c (ih hrest)
    | hit matched groups =>
      simp only [Engine.tagged] at ht
      split at ht
      · cases ht
      · rename_i shown hshown
        obtain ⟨rest, hrest, rfl⟩ := map_eq_ok_iff.1 ht
        exact (h _ _ hshown).strewn.append (ih hrest)

/-- **What is painted stands between two styles:** the reset at both ends, or the reset and nothing where
nothing is painted. -/
theorem ShowsStyles.painted_between {e : Engine} (h : e.ShowsStyles) {t painted : Text}
    (hpainted : e.painted t = .ok painted) :
    ∃ tagged front back, e.tagged (Text.pieces e.config.colorTag.scan t) = .ok tagged ∧
      Sgr.IsStyle front ∧ Sgr.IsStyle back ∧
        painted = front ++ e.bridge e.config.enabled tagged ++ back := by
  obtain ⟨-, tagged, reset, htagged, hreset, rfl⟩ := painted_eq_ok_iff.1 hpainted
  have hstyle := h _ _ hreset
  split
  · rename_i hempty
    refine ⟨tagged, reset, [], htagged, hstyle, .inl rfl, ?_⟩
    rw [List.isEmpty_iff.1 hempty, List.append_nil, List.append_nil]
  · exact ⟨tagged, reset, reset, htagged, hstyle, hstyle, rfl⟩

/-- The reset at both ends strips away. -/
theorem ShowsStyles.strip_painted {e : Engine} (h : e.ShowsStyles) {t painted : Text}
    (hpainted : e.painted t = .ok painted) :
    ∃ tagged, e.tagged (Text.pieces e.config.colorTag.scan t) = .ok tagged ∧
      Sgr.strip painted = Sgr.strip (e.bridge e.config.enabled tagged) := by
  obtain ⟨tagged, front, back, htagged, hfront, hback, rfl⟩ := h.painted_between hpainted
  exact ⟨tagged, htagged, by rw [Sgr.strip_append_style _ hback, Sgr.strip_style_append hfront]⟩

/-- **Painting adds only styling:** to strip what was painted is to take the inline tags out of the
text, if it has no escape character and markup is left alone.  Whether rendering is enabled makes no
difference. -/
theorem Reachable.strip_paint {e : Engine} (he : e.Reachable) (hhtml : e.config.htmlTags = false)
    {t painted : Text} (ht : Sgr.escape ∉ t) (hpaint : (e.paint t).1 = .ok painted) :
    Sgr.strip painted = e.noPaint t := by
  rw [he.coherent.fst_paint] at hpaint
  obtain ⟨tagged, htagged, hstrip⟩ := he.showsStyles.strip_painted hpaint
  have hstrewn : Strewn Sgr.IsSequence (Text.strip e.config.colorTag.scan t) tagged :=
    he.showsStyles.strewn_tagged htagged
  have hplain : Sgr.escape ∉ Text.strip e.config.colorTag.scan t :=
    fun hc => ht (Text.mem_of_mem_strip hc)
  have hbridge : ∀ colorize u, e.bridge colorize u = u := by
    intro colorize u
    rw [bridge, hhtml, if_neg Bool.false_ne_true]
  rw [hstrip, noPaint, hbridge, hbridge, Sgr.strip_strewn hstrewn hplain,
    Sgr.strip_of_escape_not_mem hplain]

/-- The settings of an engine that renders and has a name of its own. -/
def warning : Config.Settings where
  enabled := some (.flag true)
  entries := [(.text "warn".toList, .text "1;33".toList)]

/-- The engine with these settings. -/
def warner : Engine where
  config := { Config.standard with
    enabled := true
    entries := [(.text "warn".toList, .text "1;33".toList)] }
  palette := [("warn".toList, "1;33".toList)]
  cache := .new (some 1024)

/-- What it paints behind a tag with its name, stripped. -/
theorem strip_paint_warner : ∃ painted, (warner.paint "${warn}!".toList).1 = .ok painted ∧
    painted = Sgr.sequence ["0".toList, "10".toList] ++ Sgr.sequence ["1;33".toList] ++ ['!'] ++
      Sgr.sequence ["0".toList, "10".toList] ∧
    Sgr.strip painted = warner.noPaint "${warn}!".toList := by
  have hpaint : (warner.paint "${warn}!".toList).1.toOption =
      some (Sgr.sequence ["0".toList, "10".toList] ++ Sgr.sequence ["1;33".toList] ++ ['!'] ++
        Sgr.sequence ["0".toList, "10".toList]) := by
    decide
  have hreach : warner.Reachable := .made warning rfl rfl
  exact ⟨_, ok_of_toOption hpaint, rfl, hreach.strip_paint rfl (by decide) (ok_of_toOption hpaint)⟩

end Engine
end TermStyle
