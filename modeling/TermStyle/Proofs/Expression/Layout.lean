/-
# The normal form, run by run

A text is laid out as words and the runs of blanks between them (`Layout`).  Words have no blanks, runs have
nothing else, and there is a word between two runs, so the runs are the maximal ones; only at the ends of a
text can the word be missing.

To join words is to choose some of the runs and to put a low line in the place of each
(`JoinsWhere.exists_layout`).  What is chosen by the normal form can be read off the text as it was given,
with everything before a run and everything behind it (`exists_layout_normalize`):

| chosen if | where |
| --- | --- |
| the text before the run ends with `bright` or `bg` | after no ASCII letter or digit |
| the text behind the run begins with `off` | before no ASCII letter or digit |
-/

import TermStyle.Proofs.Expression.Joining

namespace TermStyle
namespace Expression

open Text (Solid IsRun StartsSolid)

/-- A word with the run of blanks behind it, and whether the run is joined. -/
structure Gap where
  /-- The word before the run; it is empty where the text begins with the run. -/
  word : Text
  /-- The run. -/
  blanks : Text
  /-- Whether a low line stands in the place of the run. -/
  joined : Bool
  /-- The word has no blanks. -/
  solid : Solid word
  /-- The run has nothing but blanks. -/
  run : IsRun blanks

/-- A text, cut into words and runs. -/
structure Layout where
  /-- The words with a run behind them. -/
  gaps : List Gap
  /-- The word behind the last run; it is empty where the text ends with the run. -/
  last : Text
  /-- The last word has no blanks. -/
  solid : Solid last
  /-- Between two runs there is a word. -/
  between : ∀ g ∈ gaps.tail, g.word ≠ []

namespace Layout

/-- The text of words and runs, as they were. -/
def sourceOf (gaps : List Gap) : Text := gaps.flatMap fun g => g.word ++ g.blanks

/-- The text of words and runs, with a low line in the place of those that are joined. -/
def textOf (gaps : List Gap) : Text := gaps.flatMap fun g => g.word ++ if g.joined then ['_'] else g.blanks

/-- The text that was laid out. -/
def source (l : Layout) : Text := sourceOf l.gaps ++ l.last

/-- The text with the runs that are joined. -/
def text (l : Layout) : Text := textOf l.gaps ++ l.last

/-- Whether the runs that are joined are those of which it is said, with all of the text before a run and all
of the text behind it. -/
def JoinedWhere (l : Layout) (joins : Text → Text → Prop) : Prop :=
  ∀ earlier g later, l.gaps = earlier ++ g :: later →
    (g.joined = true ↔ joins (sourceOf earlier ++ g.word) (sourceOf later ++ l.last))

theorem sourceOf_cons (g : Gap) (gaps : List Gap) : sourceOf (g :: gaps) = g.word ++ (g.blanks ++ sourceOf gaps) := by
  rw [sourceOf, List.flatMap_cons, List.append_assoc, sourceOf]

theorem textOf_cons (g : Gap) (gaps : List Gap) :
    textOf (g :: gaps) = g.word ++ ((if g.joined then ['_'] else g.blanks) ++ textOf gaps) := by
  rw [textOf, List.flatMap_cons, List.append_assoc, textOf]

/-- The layout of one word. -/
def ofWord (w : Text) (hw : Solid w) : Layout := ⟨[], w, hw, fun _ hg => absurd hg List.not_mem_nil⟩

/-- A text that does not begin with a blank begins with a word. -/
theorem word_ne_nil_of_mem {l : Layout} (h : StartsSolid l.source) : ∀ g ∈ l.gaps, g.word ≠ [] := by
  intro g hg
  cases hgaps : l.gaps with
  | nil =>
    rw [hgaps] at hg
    exact absurd hg List.not_mem_nil
  | cons first more =>
    rw [hgaps] at hg
    rcases List.mem_cons.1 hg with rfl | hlater
    · intro hnil
      rw [source, hgaps, sourceOf_cons, hnil, List.nil_append, List.append_assoc] at h
      exact g.run.not_startsSolid _ h
    · exact l.between g (by rw [hgaps]; exact hlater)

/-- A word and a run in front of a layout. -/
def cons (g : Gap) (l : Layout) (h : StartsSolid l.source) : Layout :=
  ⟨g :: l.gaps, l.last, l.solid, l.word_ne_nil_of_mem h⟩

theorem source_cons (g : Gap) (l : Layout) (h : StartsSolid l.source) :
    (cons g l h).source = g.word ++ (g.blanks ++ l.source) := by
  simp only [source, cons, sourceOf_cons, List.append_assoc]

theorem text_cons (g : Gap) (l : Layout) (h : StartsSolid l.source) :
    (cons g l h).text = g.word ++ ((if g.joined then ['_'] else g.blanks) ++ l.text) := by
  simp only [text, cons, textOf_cons, List.append_assoc]

/-- A word and a run in front are joined where it is said, if the rest is: for those behind them, they are
text before a boundary. -/
theorem joinedWhere_cons {joins : Text → Text → Prop} (hlocal : Local joins) {g : Gap} {l : Layout}
    (h : StartsSolid l.source) (hg : g.joined = true ↔ joins g.word l.source) (hl : l.JoinedWhere joins) :
    (cons g l h).JoinedWhere joins := by
  intro earlier gap later hcut
  cases earlier with
  | nil =>
    obtain ⟨rfl, rfl⟩ := List.cons.inj hcut
    exact hg
  | cons first earlier =>
    obtain ⟨rfl, hmore⟩ := List.cons.inj hcut
    have hboundary := g.run.any_getLast?_append g.word
    rw [hl earlier gap later hmore, sourceOf_cons, ← List.append_assoc g.word, List.append_assoc (g.word ++ g.blanks)]
    exact (hlocal.before _ _ hboundary).symm

end Layout

/-- **To join words where it is said is to choose runs:** the text has a layout, and what comes of it has the
same one, with a low line in the place of exactly those runs of which it is said. -/
theorem JoinsWhere.exists_layout {joins : Text → Text → Prop} {fold : Text → Text} (h : JoinsWhere joins fold)
    (hlocal : Local joins) (e : Text) :
    ∃ l : Layout, l.source = e ∧ l.text = fold e ∧ l.JoinedWhere joins := by
  induction e using Text.run_induction with
  | word w hw =>
    refine ⟨.ofWord w hw, rfl, (h.word hw).symm, fun earlier g later hcut => ?_⟩
    exact absurd hcut (List.append_ne_nil_of_right_ne_nil earlier (List.cons_ne_nil g later)).symm
  | run w r y hw hr hy ih =>
    obtain ⟨l, rfl, htext, hwhere⟩ := ih
    by_cases hjoins : joins w l.source
    · let g : Gap := ⟨w, r, true, hw, hr⟩
      refine ⟨.cons g l hy, l.source_cons g hy, ?_, Layout.joinedWhere_cons hlocal hy (iff_of_true rfl hjoins) hwhere⟩
      rw [Layout.text_cons, htext, h.joined hw hr hy hjoins]
      rfl
    · let g : Gap := ⟨w, r, false, hw, hr⟩
      refine ⟨.cons g l hy, l.source_cons g hy, ?_,
        Layout.joinedWhere_cons hlocal hy (iff_of_false Bool.false_ne_true hjoins) hwhere⟩
      rw [Layout.text_cons, htext, h.kept hw hr hy hjoins]
      rfl

/-- **The normal form of a style expression** is the expression with a low line in the place of some of its
runs of blanks, and nothing else changed.  These are exactly the runs before which the expression ends with
`bright` or `bg`, after no ASCII letter or digit, or behind which it begins with `off`, before no ASCII
letter or digit. -/
theorem exists_layout_normalize (e : Text) :
    ∃ l : Layout, l.source = e ∧ l.text = normalize e ∧ l.JoinedWhere fun before behind =>
      (Closes brightWord before ∨ Closes backgroundWord before) ∨ Opens offWord behind :=
  joinsWhere_normalize.exists_layout local_joins e

end Expression
end TermStyle
