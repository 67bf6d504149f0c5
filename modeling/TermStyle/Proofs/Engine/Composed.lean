/-
# Painting texts made of parts

Most texts that are painted are written in a simple way: literal text, tags with an expression in
braces, and markup tags, one after the other, and none of them inside of another one (`Part`).  On
such a text every scan finds the parts that it is there for, and nothing else:

| scan | literal | `${x}` | known tag, where markup is bridged | other tag |
| --- | --- | --- | --- | --- |
| replacing inline tags | stays | its sequence or nothing | stays | stays |
| bridging | stays | stays | its sequence or nothing | stays |
| taking out inline tags | stays | | | stays |
| taking out sequences | stays | goes | goes | stays |
| bridging once more | stays | | | stays |

So there is one lemma for each kind of part, which says what it adds in front of a text that is
already painted (`Shows.literal`, `Shows.inline`, `Shows.markup`).  What is painted of all parts is what
stays of them, with sequences strewn in (`shows_flatMap`, `Shows.exists_painted`), and to take styles out
again gives what stays (`Reachable.noPaint_paint_source`).
-/

import TermStyle.Proofs.ColorTag.Braced
import TermStyle.Proofs.Engine.ResetCommand
import TermStyle.Proofs.Engine.Switching

namespace TermStyle

/-- A part of a text that is to be painted. -/
inductive Part
  /-- Text that is shown as it is. -/
  | literal (t : Text)
  /-- An inline tag with its expression. -/
  | inline (x : Text)
  /-- A markup tag with its name. -/
  | markup (name : Text)
  deriving DecidableEq, Repr

namespace Part

/-- How a part is written. -/
def source : Part → Text
  | .literal t => t
  | .inline x => ColorTag.braced x
  | .markup name => '<' :: (name ++ ['>'])

/-- What stays of a part when styles are taken out. -/
def left (html : Bool) : Part → Text
  | .literal t => t
  | .inline _ => []
  | .markup name => if html = true ∧ name ∈ Markup.tags.keys then [] else (Part.markup name).source

/-- Whether a character has no part in any style: it is not the escape character, no brace and no
angle bracket. -/
def isPlainChar (c : Char) : Bool := c != Sgr.escape && ColorTag.isInner c && Markup.isNameChar c

/-- Whether a part is one part only, with an expression that resolves if it is an inline tag. -/
def Fits (e : Engine) : Part → Prop
  | .literal t => ∀ c ∈ t, isPlainChar c = true
  | .inline x => (∀ c ∈ x, ColorTag.isInner c = true) ∧ ∃ shown, (e.resolve x).1 = .ok shown
  | .markup name => ∀ c ∈ name, isPlainChar c = true

/-- What is no plain character does not stand in plain text. -/
theorem not_mem_of_plain {t : Text} (ht : ∀ c ∈ t, isPlainChar c = true) {c : Char}
    (hc : isPlainChar c = false) : c ∉ t :=
  fun hm => Bool.false_ne_true (hc.symm.trans (ht c hm))

/-- No part is written with an opening brace in front, so neither are parts. -/
theorem head?_flatMap_source {e : Engine} {parts : List Part} (h : ∀ p ∈ parts, p.Fits e) :
    (parts.flatMap source).head? ≠ some '\x7b' := by
  induction parts with
  | nil => decide
  | cons p more ih =>
    obtain ⟨hp, hmore⟩ := List.forall_mem_cons.1 h
    rw [List.flatMap_cons]
    cases p with
    | literal t =>
      cases t with
      | nil => exact ih hmore
      | cons c t =>
        intro hhead
        obtain rfl : c = '\x7b' := Option.some.inj hhead
        exact not_mem_of_plain hp (by decide) (List.mem_cons_self ..)
    | inline x => exact fun hhead => absurd (Option.some.inj hhead) (by decide)
    | markup name => exact fun hhead => absurd (Option.some.inj hhead) (by decide)

/-- A markup tag is written with neither the escape character nor a brace. -/
theorem not_mem_markup {e : Engine} {name : Text} (hname : (markup name).Fits e) {c : Char}
    (hc : c = Sgr.escape ∨ c = '\x7b') : c ∉ (markup name).source := by
  have hplain : isPlainChar c = false := by rcases hc with rfl | rfl <;> decide
  have hinside : c ∉ name := not_mem_of_plain hname hplain
  simp only [source, List.mem_cons, List.mem_append, List.not_mem_nil, or_false, not_or]
  refine ⟨?_, hinside, ?_⟩ <;> rcases hc with rfl | rfl <;> decide

/-- What stays of parts has neither the escape character nor a brace. -/
theorem not_mem_flatMap_left {e : Engine} {parts : List Part} (h : ∀ p ∈ parts, p.Fits e) (html : Bool)
    {c : Char} (hc : c = Sgr.escape ∨ c = '\x7b') : c ∉ parts.flatMap (left html) := by
  intro hm
  obtain ⟨p, hp, hmem⟩ := List.mem_flatMap.1 hm
  have hfits := h p hp
  cases p with
  | literal t =>
    have hplain : isPlainChar c = false := by rcases hc with rfl | rfl <;> decide
    exact not_mem_of_plain hfits hplain hmem
  | inline x => exact absurd hmem List.not_mem_nil
  | markup name =>
    simp only [left] at hmem
    split at hmem
    · exact absurd hmem List.not_mem_nil
    · exact not_mem_markup hfits hc hmem

end Part

namespace Engine

open Text (Strewn)

/-- Text without `<` is not touched by the bridge. -/
theorem bridge_append_of_not_mem (e : Engine) (colorize : Bool) {t : Text} (ht : '<' ∉ t) (rest : Text) :
    e.bridge colorize (t ++ rest) = t ++ e.bridge colorize rest := by
  unfold bridge
  split
  · exact Markup.bridge_append_of_not_mem colorize ht rest
  · rfl

/-- A markup tag is not touched where markup is left alone or its name is not known. -/
theorem bridge_source_append (e : Engine) (colorize : Bool) {name : Text}
    (hname : (Part.markup name).Fits e)
    (hstays : ¬ (e.config.htmlTags = true ∧ name ∈ Markup.tags.keys)) (rest : Text) :
    e.bridge colorize ((Part.markup name).source ++ rest) =
      (Part.markup name).source ++ e.bridge colorize rest := by
  have hopen : '<' ∉ name := Part.not_mem_of_plain hname (by decide)
  have hclose : '>' ∉ name := Part.not_mem_of_plain hname (by decide)
  unfold bridge
  split
  · rename_i hhtml
    have hunknown : name ∉ Markup.tags.keys := fun hknown => hstays ⟨hhtml, hknown⟩
    have hbridge := Markup.bridge_other_tag colorize hopen hclose hunknown rest
    simpa only [Part.source, List.cons_append, List.append_assoc, List.nil_append] using hbridge
  · rfl

/-- **What stays of a markup tag is in its place after the bridge,** with a sequence strewn in where the
tag is known and colors are wanted. -/
theorem bridge_markup_append (e : Engine) (colorize : Bool) {name : Text}
    (hname : (Part.markup name).Fits e) (rest : Text) :
    ∃ image, Strewn Sgr.IsSequence ((Part.markup name).left e.config.htmlTags) image ∧
      e.bridge colorize ((Part.markup name).source ++ rest) = image ++ e.bridge colorize rest := by
  simp only [Part.left]
  split
  · rename_i hgoes
    obtain ⟨hhtml, hknown⟩ := hgoes
    obtain ⟨sequence, hsequence⟩ : ∃ sequence, Markup.tags.get? name = some sequence := by
      refine Option.ne_none_iff_exists'.1 fun hnone => ?_
      exact OrderedMap.get?_eq_none_iff.1 hnone hknown
    have hstyle : Sgr.IsStyle sequence := .inr (Markup.isSequence_of_get? hsequence)
    have hbridge := Markup.bridge_tag hsequence colorize rest
    refine ⟨if colorize then sequence else [], ?_, ?_⟩
    · cases colorize with
      | false => exact .nil
      | true => exact hstyle.strewn
    · unfold bridge
      rw [if_pos hhtml, if_pos hhtml, ← hbridge]
      simp only [Part.source, List.cons_append, List.append_assoc, List.nil_append]
  · rename_i hstays
    exact ⟨_, .refl _, e.bridge_source_append colorize hname hstays rest⟩

/-- What stays of a part stays when markup is bridged once more. -/
theorem bridge_left_append (e : Engine) (colorize : Bool) {p : Part} (hp : p.Fits e) (rest : Text) :
    e.bridge colorize (p.left e.config.htmlTags ++ rest) =
      p.left e.config.htmlTags ++ e.bridge colorize rest := by
  cases p with
  | literal t => exact e.bridge_append_of_not_mem colorize (Part.not_mem_of_plain hp (by decide)) rest
  | inline x => rfl
  | markup name =>
    simp only [Part.left]
    split
    · rfl
    · rename_i hstays
      exact e.bridge_source_append colorize hp hstays rest

theorem bridge_flatMap_left (e : Engine) (colorize : Bool) {parts : List Part}
    (hparts : ∀ p ∈ parts, p.Fits e) :
    e.bridge colorize (parts.flatMap (Part.left e.config.htmlTags)) =
      parts.flatMap (Part.left e.config.htmlTags) := by
  induction parts with
  | nil =>
    unfold bridge
    split
    · exact Markup.bridge_nil colorize
    · rfl
  | cons p more ih =>
    obtain ⟨hp, hmore⟩ := List.forall_mem_cons.1 hparts
    rw [List.flatMap_cons, e.bridge_left_append colorize hp, ih hmore]

/-- Whether the tags of a text resolve, and what it gives is, after the bridge, a given text with
sequences strewn in. -/
def Shows (e : Engine) (source left : Text) : Prop :=
  ∃ tagged, e.tagged (Text.pieces ColorTag.standard.scan source) = .ok tagged ∧
    Strewn Sgr.IsSequence left (e.bridge e.config.enabled tagged)

/-- Characters outside of every tag stay where they are. -/
theorem tagged_plain_append {e : Engine} (t : Text) {more : List Text.Piece} {tagged : Text}
    (h : e.tagged more = .ok tagged) : e.tagged (t.map .plain ++ more) = .ok (t ++ tagged) := by
  induction t with
  | nil => exact h
  | cons c t ih => exact map_eq_ok_iff.2 ⟨t ++ tagged, ih, rfl⟩

theorem Shows.literal {e : Engine} {t : Text} (ht : ∀ c ∈ t, Part.isPlainChar c = true)
    {source left : Text} (h : e.Shows source left) (hsource : source.head? ≠ some '\x7b') :
    e.Shows (t ++ source) (t ++ left) := by
  obtain ⟨tagged, htagged, hstrewn⟩ := h
  have hbrace : '\x7b' ∉ t := Part.not_mem_of_plain ht (by decide)
  have hopen : '<' ∉ t := Part.not_mem_of_plain ht (by decide)
  refine ⟨t ++ tagged, ?_, ?_⟩
  · rw [ColorTag.pieces_append_of_not_mem hbrace hsource]
    exact tagged_plain_append t htagged
  · rw [e.bridge_append_of_not_mem _ hopen]
    exact (Strewn.refl t).append hstrewn

theorem Shows.inline {e : Engine} (hstyles : e.ShowsStyles) {x shown : Text}
    (hx : ∀ c ∈ x, ColorTag.isInner c = true) (hshown : e.resolved x = .ok shown) {source left : Text}
    (h : e.Shows source left) : e.Shows (ColorTag.braced x ++ source) left := by
  obtain ⟨tagged, htagged, hstrewn⟩ := h
  have hstyle := hstyles x shown hshown
  have hopen : '<' ∉ shown := Sgr.not_mem_strewn hstyle.strewn (by decide) List.not_mem_nil
  refine ⟨shown ++ tagged, ?_, ?_⟩
  · rw [ColorTag.pieces_braced_append hx]
    have hexpression : ColorTag.expression [some x] = x := rfl
    simp only [Engine.tagged, hexpression, hshown]
    exact map_eq_ok_iff.2 ⟨tagged, htagged, rfl⟩
  · rw [e.bridge_append_of_not_mem _ hopen]
    exact hstyle.strewn.append hstrewn

theorem Shows.markup {e : Engine} {name : Text} (hname : (Part.markup name).Fits e)
    {source left : Text} (h : e.Shows source left) (hsource : source.head? ≠ some '\x7b') :
    e.Shows ((Part.markup name).source ++ source)
      ((Part.markup name).left e.config.htmlTags ++ left) := by
  obtain ⟨tagged, htagged, hstrewn⟩ := h
  have hbrace : '\x7b' ∉ (Part.markup name).source := Part.not_mem_markup hname (.inr rfl)
  obtain ⟨image, himage, hbridge⟩ := e.bridge_markup_append e.config.enabled hname tagged
  refine ⟨(Part.markup name).source ++ tagged, ?_, ?_⟩
  · rw [ColorTag.pieces_append_of_not_mem hbrace hsource]
    exact tagged_plain_append _ htagged
  · rw [hbridge]
    exact himage.append hstrewn

/-- **Parts show what stays of them,** one after the other. -/
theorem shows_flatMap {e : Engine} (he : e.Coherent) (hstyles : e.ShowsStyles) {parts : List Part}
    (hparts : ∀ p ∈ parts, p.Fits e) :
    e.Shows (parts.flatMap Part.source) (parts.flatMap (Part.left e.config.htmlTags)) := by
  induction parts with
  | nil =>
    refine ⟨[], ?_, ?_⟩
    · rw [List.flatMap_nil, ColorTag.finds_standard.pieces_nil]
      rfl
    · have hnil : e.bridge e.config.enabled [] = [] := e.bridge_flatMap_left _ hparts
      rw [hnil]
      exact .nil
  | cons p more ih =>
    obtain ⟨hp, hmore⟩ := List.forall_mem_cons.1 hparts
    have hlater := ih hmore
    have hhead := Part.head?_flatMap_source hmore
    rw [List.flatMap_cons, List.flatMap_cons]
    cases p with
    | literal t => exact hlater.literal hp hhead
    | inline x =>
      obtain ⟨hx, shown, hshown⟩ := hp
      rw [he.fst_resolve] at hshown
      exact hlater.inline hstyles hx hshown
    | markup name => exact hlater.markup hp hhead

/-- The reset at both ends is strewn in as well. -/
theorem Shows.exists_painted {e : Engine} (hstyles : e.ShowsStyles)
    (htag : e.config.colorTag = ColorTag.standard) {reset : Text}
    (hreset : e.resolved e.config.resetCommand = .ok reset) {source left : Text}
    (h : e.Shows source left) :
    ∃ painted, e.painted source = .ok painted ∧ Strewn Sgr.IsSequence left painted := by
  obtain ⟨tagged, htagged, hstrewn⟩ := h
  have hreads : e.config.colorTag.readsText = true := htag ▸ ColorTag.readsText_standard
  have hpainted := painted_eq_ok_iff.2 ⟨hreads, tagged, reset, htag ▸ htagged, hreset, rfl⟩
  obtain ⟨same, front, back, hsame, hfront, hback, hshape⟩ := hstyles.painted_between hpainted
  obtain rfl : same = tagged := Except.ok.inj (hsame.symm.trans (htag ▸ htagged))
  have hends := (hfront.strewn.append hstrewn).append hback.strewn
  rw [List.nil_append, List.append_nil] at hends
  exact ⟨_, hpainted, hshape ▸ hends⟩

/-- **Taking styles out undoes painting** of a text that is made of parts. -/
theorem Reachable.noPaint_paint_source {e : Engine} (he : e.Reachable)
    (htag : e.config.colorTag = ColorTag.standard) (hreset : e.Resets) {parts : List Part}
    (hparts : ∀ p ∈ parts, p.Fits e) :
    ∃ painted, (e.paint (parts.flatMap Part.source)).1 = .ok painted ∧
      (e.paint (parts.flatMap Part.source)).2.noPaint painted =
        parts.flatMap (Part.left e.config.htmlTags) := by
  have hshows := shows_flatMap he.coherent he.showsStyles hparts
  obtain ⟨reset, hreset⟩ := hreset
  rw [resetSequence, he.coherent.fst_resolve] at hreset
  obtain ⟨painted, hpainted, hstrewn⟩ := hshows.exists_painted he.showsStyles htag hreset
  refine ⟨painted, by rw [he.coherent.fst_paint, hpainted], ?_⟩
  have hbrace : '\x7b' ∉ painted :=
    Sgr.not_mem_strewn hstrewn (by decide) (Part.not_mem_flatMap_left hparts _ (.inr rfl))
  have hescape : Sgr.escape ∉ parts.flatMap (Part.left e.config.htmlTags) :=
    Part.not_mem_flatMap_left hparts _ (.inl rfl)
  calc (e.paint (parts.flatMap Part.source)).2.noPaint painted
      = e.noPaint painted := (lookUps_paint e _).sameButCache.noPaint painted
    _ = e.bridge false (Sgr.strip painted) := by
      rw [noPaint, htag, ColorTag.strip_of_not_mem hbrace]
    _ = e.bridge false (parts.flatMap (Part.left e.config.htmlTags)) := by
      rw [Sgr.strip_strewn hstrewn hescape]
    _ = parts.flatMap (Part.left e.config.htmlTags) := e.bridge_flatMap_left false hparts

/-- A text with a dollar sign before an inline tag, a known tag and another one. -/
def mixed : List Part :=
  [.literal "a$".toList, .inline "bold".toList, .markup "b".toList, .literal "x".toList,
    .markup "p".toList]

/-- What is left of it, painted with colors and stripped again. -/
theorem noPaint_paint_mixed : mixed.flatMap Part.source = "a$${bold}<b>x<p>".toList ∧
    ∃ painted, ((bridging true).paint (mixed.flatMap Part.source)).1 = .ok painted ∧
      ((bridging true).paint (mixed.flatMap Part.source)).2.noPaint painted = "a$x<p>".toList := by
  have hreset : ((bridging true).resetSequence).1.toOption =
      some (Sgr.sequence ["0".toList, "10".toList]) := by
    decide
  have hbold : ((bridging true).resolve "bold".toList).1.toOption = some (Sgr.sequence ["1".toList]) := by
    decide
  have hinline : (Part.inline "bold".toList).Fits (bridging true) :=
    ⟨List.all_eq_true.1 (by decide), _, ok_of_toOption hbold⟩
  have hparts : ∀ p ∈ mixed, p.Fits (bridging true) := by
    simp only [mixed, List.forall_mem_cons]
    exact ⟨List.all_eq_true.1 (by decide), hinline, List.all_eq_true.1 (by decide),
      List.all_eq_true.1 (by decide), List.all_eq_true.1 (by decide), fun _ hp => absurd hp List.not_mem_nil⟩
  refine ⟨by decide, ?_⟩
  exact (reachable_bridging true).noPaint_paint_source rfl ⟨_, ok_of_toOption hreset⟩ hparts

end Engine
end TermStyle
