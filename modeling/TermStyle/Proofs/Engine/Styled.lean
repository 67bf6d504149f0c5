/-
# Style chains and inline tags

There are two ways to paint a text in a style: to call a builder on it, or to write the style into a tag
in front of it.  The tag gives way to its sequence in the one scan that replaces all tags, so nothing
reads the sequence again.  The builder puts its sequence in front of the text first, and the scan goes
over both.

| | first | then | then |
| --- | --- | --- | --- |
| tag | scan `${x}` and the text | resolve `x` | resolve the other tags |
| builder | resolve `x` | scan the sequence and the text | resolve the other tags |

It comes to the same if the scan passes over the sequence (`Text.Scanner.PassesOver`): then what is
painted is the sequence and what is painted of the text alone (`rawPaint_append`).  A tag that begins with
a character that no sequence has leaves it no choice (`Pattern.passesOver`), and the standard tag is of
this kind: a builder paints what the tag paints and keeps the same in the cache
(`Reachable.paintStyled_eq_paint`).

Other tags can begin inside the sequence of the builder.  Where tags stand in square brackets, the bracket
of the sequence pairs with a closing one of the text, and what is between them is taken for an expression
(`paintStyled_not_intact`).  `Reachable.paintStyled_intact_iff` says when the sequence stays whole.
-/

import TermStyle.Proofs.Engine.Composed
import TermStyle.Proofs.Engine.Sequencing
import TermStyle.Proofs.Engine.Switching
import TermStyle.Proofs.Pattern.Leading

namespace TermStyle

set_option maxRecDepth 4000

/-- The standard tag begins with a character that no sequence has. -/
theorem ColorTag.startsClearOf_standard :
    standardPattern.root.startsClearOf Sgr.sequenceChars = true := by
  decide

namespace Engine

/-- **What the scan passes over comes in front of what is painted,** if no markup tag can begin in
it. -/
theorem rawPaint_append {e : Engine} {s t : Text} (hopen : '<' ∉ s)
    (hpass : e.config.colorTag.scan.PassesOver s t) : e.rawPaint (s ++ t) = behind s (e.rawPaint t) := by
  cases hreads : e.config.colorTag.readsText with
  | false =>
    rw [rawPaint_of_unreadable hreads, rawPaint_of_unreadable hreads]
    rfl
  | true =>
    rw [rawPaint_eq hreads, rawPaint_eq hreads, hpass, replaceTags_plain_append, behind, behind,
      andThen_assoc, andThen_assoc]
    congr 1
    funext painted after
    simp only [andThen, e.bridge_append_of_not_mem _ hopen]

section Reachable

variable {e : Engine} (he : e.Reachable)
include he

/-- What an engine that can be reached resolves is a style. -/
theorem Reachable.isStyle {x s : Text} (h : (e.resolve x).1 = .ok s) : Sgr.IsStyle s :=
  he.showsStyles x s (he.coherent.fst_resolve x ▸ h)

/-- **To paint a text behind a standard tag** is to resolve the expression of the tag and to paint the
text behind its sequence. -/
theorem Reachable.rawPaint_braced_append (htag : e.config.colorTag = ColorTag.standard) {x : Text}
    (hx : ∀ c ∈ x, ColorTag.isInner c = true) (t : Text) :
    e.rawPaint (ColorTag.braced x ++ t) =
      andThen (e.resolve x) fun sequence after => after.rawPaint (sequence ++ t) := by
  have hsame := (e.lookUps_resolve x).sameButCache
  have hstyle := fun s => he.isStyle (x := x) (s := s)
  have hexpression : ColorTag.expression [some x] = x := rfl
  have hreads : e.config.colorTag.readsText = true := htag ▸ ColorTag.readsText_standard
  rw [rawPaint_eq hreads, htag, ColorTag.pieces_braced_append hx, replaceTags_hit, hexpression, andThen_assoc]
  generalize e.resolve x = d at hsame hstyle ⊢
  obtain ⟨answer, after⟩ := d
  cases answer with
  | error u => rfl
  | ok s =>
    -- The engine after the lookup has the same pattern, which passes over what was resolved.
    have htag' : after.config.colorTag = ColorTag.standard := by rw [hsame.1, htag]
    have hopen : '<' ∉ s := Sgr.not_mem_strewn (hstyle s rfl).strewn (by decide) List.not_mem_nil
    have hpass : after.config.colorTag.scan.PassesOver s t :=
      htag' ▸ Pattern.passesOver ColorTag.startsClearOf_standard (hstyle s rfl).mem_sequenceChars t
    have hbridge : after.bridge = e.bridge := hsame.bridge
    have hconfig : after.config = e.config := hsame.1
    simp only [andThen]
    rw [rawPaint_eq (hconfig ▸ hreads), hpass, replaceTags_plain_append, htag', hbridge, hconfig]
    rfl

/-- **A style chain paints as an inline tag does** in front of the text: the same text, or the same
error, and the same engine after it, with its cache and its counts. -/
theorem Reachable.paintStyled_eq_paint (htag : e.config.colorTag = ColorTag.standard) (b : Builder)
    (hopen : '\x7b' ∉ b.expression) (hclose : '\x7d' ∉ b.expression) {t : Text} (ht : t ≠ []) :
    e.paintStyled b.expression t = e.paint (ColorTag.braced b.expression ++ t) := by
  have hinner : ∀ c ∈ b.expression, ColorTag.isInner c = true := by
    intro c hc
    have hne : c ≠ '\x7b' ∧ c ≠ '\x7d' := ⟨fun h => hopen (h ▸ hc), fun h => hclose (h ▸ hc)⟩
    simp [ColorTag.isInner, hne]
  calc e.paintStyled b.expression t
      = andThen (e.resolve b.expression) fun s after => after.paint (s ++ t) := e.paintStyled_eq _ ht
    _ = andThen (e.resolve b.expression) fun s after => andThen (after.rawPaint (s ++ t)) enclose := by
      simp only [paint_eq]
    _ = andThen (e.rawPaint (ColorTag.braced b.expression ++ t)) enclose := by
      rw [he.rawPaint_braced_append htag hinner, andThen_assoc]
    _ = e.paint (ColorTag.braced b.expression ++ t) := (e.paint_eq _).symm

end Reachable

/-- The expression `bold dim` in front of a text with characters of tags in it, some of which are
one. -/
theorem paintStyled_eq_paint_marked :
    (bridging true).paintStyled (Builder.expression ⟨["bold".toList, "dim".toList]⟩)
        "\x7bx\x7d<b>$${dim}".toList =
      (bridging true).paint (ColorTag.braced "bold dim".toList ++ "\x7bx\x7d<b>$${dim}".toList) :=
  (reachable_bridging true).paintStyled_eq_paint rfl ⟨["bold".toList, "dim".toList]⟩ (by decide)
    (by decide) (by decide)

/-- What stands between resets can be read off the whole. -/
theorem between_injective (reset : Text) : Function.Injective (between reset) := by
  have hlonger : ∀ {t : Text}, ¬ t.isEmpty = true → reset ≠ reset ++ t ++ reset := by
    intro t ht h
    have hlength := congrArg List.length h
    simp only [List.length_append] at hlength
    exact ht (List.isEmpty_iff.2 (List.length_eq_zero_iff.1 (by omega)))
  intro s t h
  unfold between at h
  split at h <;> split at h <;> rename_i hs ht
  · rw [List.isEmpty_iff.1 hs, List.isEmpty_iff.1 ht]
  · exact absurd h (hlonger ht)
  · exact absurd h.symm (hlonger hs)
  · exact List.append_cancel_left (List.append_cancel_right h)

/-- A builder whose expression resolves **paints its sequence and the text as one text.** -/
theorem Reachable.fst_paintStyled {e : Engine} (he : e.Reachable) {x s reset t : Text}
    (hs : (e.resolve x).1 = .ok s) (hreset : e.resetSequence.1 = .ok reset) (ht : t ≠ []) :
    (e.paintStyled x t).1 = (e.rawPaint (s ++ t)).1.map (between reset) := by
  have hs' : e.resolved x = .ok s := he.coherent.fst_resolve x ▸ hs
  have hreset' : e.resolved e.config.resetCommand = .ok reset := he.coherent.fst_resolve _ ▸ hreset
  rw [he.coherent.fst_paintStyled, he.coherent.fst_rawPaint, paintedStyled,
    if_neg (ht ∘ List.isEmpty_iff.1)]
  simp only [hs', painted, hreset']
  cases e.rawPainted (s ++ t) <;> rfl

/-- **When the sequence of a builder stays whole.**  A builder resolves, and a text can be painted.  What
comes of the two is the sequence and behind it what is painted of the text, between two resets, exactly if
the sequence and the text scanned as one are painted so.  It is always so for tags that cannot begin with
a character of a sequence. -/
theorem Reachable.paintStyled_intact_iff {e : Engine} (he : e.Reachable) (b : Builder)
    {s r reset t : Text} (hs : (e.resolve b.expression).1 = .ok s) (ht : t ≠ [])
    (hr : (e.rawPaint t).1 = .ok r) (hreset : e.resetSequence.1 = .ok reset) :
    ((e.paintStyled b.expression t).1 = .ok (between reset (s ++ r)) ↔
        (e.rawPaint (s ++ t)).1 = .ok (s ++ r)) ∧
      ∀ p, e.config.colorTag = .read p → p.root.startsClearOf Sgr.sequenceChars = true →
        (e.paintStyled b.expression t).1 = .ok (between reset (s ++ r)) := by
  have hiff : (e.paintStyled b.expression t).1 = .ok (between reset (s ++ r)) ↔
      (e.rawPaint (s ++ t)).1 = .ok (s ++ r) := by
    rw [he.fst_paintStyled hs hreset ht, map_eq_ok_iff]
    constructor
    · rintro ⟨painted, hpainted, hbetween⟩
      rw [hpainted, between_injective reset hbetween]
    · exact fun h => ⟨_, h, rfl⟩
  refine ⟨hiff, fun p htag hclear => hiff.2 ?_⟩
  have hstyle := he.isStyle hs
  have hopen : '<' ∉ s := Sgr.not_mem_strewn hstyle.strewn (by decide) List.not_mem_nil
  have hpass : e.config.colorTag.scan.PassesOver s t :=
    htag ▸ Pattern.passesOver hclear hstyle.mem_sequenceChars t
  rw [rawPaint_append hopen hpass]
  rcases hraw : e.rawPaint t with ⟨answer, after⟩
  rw [hraw] at hr
  cases hr
  rfl

/-- Tags in square brackets. -/
def brackets : Pattern where
  source := "\\[(.*?)\\]".toList
  options := {}
  root := Pattern.Node.sequence [
    .one (ColorTag.oneChar '['),
    .group 1 (.loop 0 none false (.one (Pattern.Atom.any.set {}))),
    .one (ColorTag.oneChar ']')]
  groups := 1

theorem compile_brackets : Pattern.compile {} brackets.source = .ok brackets :=
  ok_of_toOption (by decide +kernel)

/-- An engine that renders and has its tags in square brackets. -/
def bracketed : Engine where
  config := { Config.standard with enabled := true, colorTag := .read brackets }
  palette := []
  cache := .new (some 1024)

theorem reachable_bracketed : bracketed.Reachable := by
  have htag : Config.checkColorTag (.datum (.text brackets.source)) = .ok (.read brackets) := by
    simp only [Config.checkColorTag, ColorTag.accept, compile_brackets]
    rfl
  have hconfig : Config.ofSettings
      { enabled := some (.flag true), colorTag := some (.datum (.text brackets.source)) } =
        .ok bracketed.config := by
    simp only [Config.ofSettings, Config.given, htag]
    rfl
  exact .made _ hconfig rfl

/-- The builder for bold. -/
def bold : Builder := ⟨["bold".toList]⟩

/-- A bracket that is not closed, behind the sequence of a builder; and a text with a tag that begins
with a dollar sign. -/
theorem paintStyled_intact_bold :
    (bracketed.paintStyled bold.expression "[$x".toList).1 =
        .ok (between (Sgr.sequence ["0".toList, "10".toList]) (Sgr.sequence ["1".toList] ++ "[$x".toList)) ∧
      ((bridging true).paintStyled bold.expression "[${dim}x]".toList).1 =
        .ok (between (Sgr.sequence ["0".toList, "10".toList])
          (Sgr.sequence ["1".toList] ++ ('[' :: Sgr.sequence ["2".toList] ++ "x]".toList))) := by
  constructor
  · have hs : (bracketed.resolve bold.expression).1 = .ok (Sgr.sequence ["1".toList]) := by
      decide
    have hr : (bracketed.rawPaint "[$x".toList).1 = .ok "[$x".toList := by decide
    have hreset : bracketed.resetSequence.1 = .ok (Sgr.sequence ["0".toList, "10".toList]) := by
      decide
    exact (reachable_bracketed.paintStyled_intact_iff bold hs (by decide) hr hreset).1.2 (by decide)
  · have hs : ((bridging true).resolve bold.expression).1 = .ok (Sgr.sequence ["1".toList]) := by
      decide
    have hr : ((bridging true).rawPaint "[${dim}x]".toList).1 =
        .ok ('[' :: Sgr.sequence ["2".toList] ++ "x]".toList) := by
      decide
    have hreset : (bridging true).resetSequence.1 = .ok (Sgr.sequence ["0".toList, "10".toList]) := by
      decide
    exact ((reachable_bridging true).paintStyled_intact_iff bold hs (by decide) hr hreset).2 _
      rfl ColorTag.startsClearOf_standard

/-- **A tag can begin inside of the sequence.**  Tags stand in square brackets here.  The builder for
bold resolves, and `[dim]x` can be painted, but the builder does not paint it: the bracket that is part
of its sequence pairs with the closing one of the tag. -/
theorem paintStyled_not_intact : bracketed.Reachable ∧ bracketed.config.enabled = true ∧
    (bracketed.resolve bold.expression).1 = .ok (Sgr.sequence ["1".toList]) ∧
    (bracketed.rawPaint "[dim]x".toList).1 = .ok (Sgr.sequence ["2".toList] ++ "x".toList) ∧
    bracketed.resetSequence.1 = .ok (Sgr.sequence ["0".toList, "10".toList]) ∧
    (bracketed.paintStyled bold.expression "[dim]x".toList).1 =
      .error (.unresolvable ⟨"1m[dim".toList, "1m[dim".toList⟩) :=
  ⟨reachable_bracketed, rfl, by decide, by decide, by decide,
    by decide⟩

end Engine
end TermStyle
