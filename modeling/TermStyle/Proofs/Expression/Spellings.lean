/-
# Two spellings of a modified word

`bright red` and `bright_red` are the same word, spelled in two ways.  They stay so in the middle of an
expression, for a low line and a blank are boundaries alike: whatever stands around a run that is joined, it
might as well have been a low line from the beginning (`JoinsWhere.fold_run`).

| modifier | is spelled | or | where |
| --- | --- | --- | --- |
| `bright`, `bg` | the modifier and blanks | the modifier and `_` | after no ASCII letter or digit, not before a blank |
| `off` | blanks and the modifier | `_` and the modifier | before no ASCII letter or digit, not after a blank |

There must not be a blank next to the run, for it would be a part of it.
-/

import TermStyle.Proofs.Expression.Joining
import TermStyle.Proofs.Expression.Outcomes

namespace TermStyle
namespace Expression

open Text (Solid IsRun StartsSolid EndsSolid isBlank)

namespace JoinsWhere

variable {joins : Text → Text → Prop} {fold : Text → Text}

/-- **A text can be cut at any low line:** what is done on one side of it does not depend on the other. -/
theorem append_line (h : JoinsWhere joins fold) (hlocal : Local joins) (x y : Text) :
    fold (x ++ '_' :: y) = fold x ++ '_' :: fold y := by
  induction x using Text.run_induction with
  | word x hsolid => rw [h.line y hsolid, h.word hsolid]
  | run w r x hw hr hstarts ih =>
    have hmore : StartsSolid (x ++ '_' :: y) := by
      by_cases hnil : x = []
      · subst hnil
        intro c hc
        cases hc
        rfl
      · exact hstarts.append hnil _
    have hbefore : joins w (x ++ '_' :: y) ↔ joins w x := hlocal.behind w x rfl
    rw [List.append_assoc, List.append_assoc]
    by_cases hjoins : joins w x
    · rw [h.joined hw hr hmore (hbefore.2 hjoins), h.joined hw hr hstarts hjoins, ih, List.append_assoc,
        List.cons_append]
    · rw [h.kept hw hr hmore fun hmeets => hjoins (hbefore.1 hmeets), h.kept hw hr hstarts hjoins, ih,
        List.append_assoc, List.append_assoc]

/-- **A run that is joined might as well be a low line,** in any text. -/
theorem fold_run (h : JoinsWhere joins fold) (hlocal : Local joins) {x r y : Text} (hx : EndsSolid x)
    (hr : IsRun r) (hy : StartsSolid y) (hjoins : joins x y) : fold (x ++ (r ++ y)) = fold (x ++ '_' :: y) := by
  rw [(h.append_run hlocal hx hr hy).1 hjoins, h.append_line hlocal]

end JoinsWhere

/-- Behind a modifier that belongs to the word behind it, blanks have the normal form of a low line. -/
theorem normalize_behind {m p w s : Text} (hm : IsModifier m) (hcloses : ClosesAny (p ++ m)) (hw : IsRun w)
    (hs : StartsSolid s) : normalize (p ++ m ++ w ++ s) = normalize (p ++ m ++ '_' :: s) := by
  have hends : EndsSolid (p ++ m) := hm.solid.endsSolid.append hm.ne_nil p
  rw [List.append_assoc (p ++ m)]
  exact joinsWhere_normalize.fold_run local_joins hends hw hs (.inl hcloses)

/-- Before `off`, blanks have the normal form of a low line. -/
theorem normalize_before {p w s : Text} (hp : EndsSolid p) (hw : IsRun w)
    (hs : s.head?.any Char.isAlphanum = false) :
    normalize (p ++ w ++ offWord ++ s) = normalize (p ++ '_' :: offWord ++ s) := by
  have hstarts : StartsSolid (offWord ++ s) :=
    isModifier_offWord.solid.startsSolid.append isModifier_offWord.ne_nil s
  rw [List.append_assoc, List.append_assoc, List.append_assoc, List.cons_append]
  exact joinsWhere_normalize.fold_run local_joins hp hw hstarts (.inr ⟨s, rfl, hs⟩)

/-- **The two spellings of a modified word are interchangeable in any expression:** `bright` or `bg` and
blanks for the same with a low line, and blanks and `off` for a low line and `off`.  Whatever stands before
and behind, the parameters are the same, or it is the same token that is unknown. -/
theorem sameOutcome_spellings {w : Text} (hw : IsRun w) (palette : Palette) (p s : Text) :
    (∀ m, m = brightWord ∨ m = backgroundWord → p.getLast?.any Char.isAlphanum = false → StartsSolid s →
      SameOutcome palette (p ++ m ++ w ++ s) (p ++ m ++ '_' :: s)) ∧
    (s.head?.any Char.isAlphanum = false → EndsSolid p →
      SameOutcome palette (p ++ w ++ offWord ++ s) (p ++ '_' :: offWord ++ s)) := by
  constructor
  · rintro m (rfl | rfl) hp hs
    · exact sameOutcome_of_normalize (normalize_behind isModifier_brightWord (.inl ⟨p, rfl, hp⟩) hw hs) palette
    · exact sameOutcome_of_normalize (normalize_behind isModifier_backgroundWord (.inr ⟨p, rfl, hp⟩) hw hs) palette
  · intro hs hp
    exact sameOutcome_of_normalize (normalize_before hp hw hs) palette

/-- A modifier between two others, and one behind a word that a modifier belongs to, each with a tab and a
space. -/
theorem sameOutcome_spellings_stacked :
    IsRun "\t ".toList ∧ StartsSolid "bg red off".toList ∧ EndsSolid "bright bold".toList ∧
    SameOutcome [] ("dim ".toList ++ brightWord ++ "\t ".toList ++ "bg red off".toList)
      ("dim ".toList ++ brightWord ++ '_' :: "bg red off".toList) ∧
    SameOutcome [] ("bright bold".toList ++ "\t ".toList ++ offWord ++ " dim".toList)
      ("bright bold".toList ++ '_' :: offWord ++ " dim".toList) := by
  have hrun : IsRun "\t ".toList := ⟨by decide, List.all_eq_true.1 (by decide)⟩
  have hstarts : StartsSolid "bg red off".toList := by
    intro c hc
    cases hc
    decide
  have hends : EndsSolid "bright bold".toList := by
    intro c hc
    cases hc
    decide
  refine ⟨hrun, hstarts, hends, ?_, ?_⟩
  · exact (sameOutcome_spellings hrun [] _ _).1 brightWord (.inl rfl) (by decide) hstarts
  · exact (sameOutcome_spellings hrun [] _ _).2 (by decide) hends

end Expression
end TermStyle
