/-
# Painting what was painted

A text that was painted can be painted again, by itself or as a part of a longer one.  The sequences in it
have neither dollar signs nor braces, so they are no tags and make none.  What can make one is their
place: between a dollar sign and a closing brace, a tag keeps the two apart until it is painted.

| text | painted | painted again |
| --- | --- | --- |
| `a${bold}b` | `a`, bold, `b` | the same |
| `${a${bold}b` | `${a`, bold, `b` | the same |
| `$${}{bold}` | `${bold}` | bold |
| `${a${bold}b}` | `${a`, bold, `b}` | an error: no style has this name |

What is painted stays as it is exactly if there is no tag in it, and there is one exactly if an opening was
painted between a dollar sign and a closing brace where none stood (`Reachable.rawPaint_rawPaint_iff`).
-/

import TermStyle.Proofs.ColorTag.Torn
import TermStyle.Proofs.Engine.Painting
import TermStyle.Proofs.Engine.Stripping

namespace TermStyle

set_option maxRecDepth 4000
namespace Engine

open ColorTag (IsOpening)

/-- What is shown in the place of a tag, if its expression resolves. -/
def shownFor (e : Engine) (_ : Text) (groups : List (Option Text)) : Text :=
  match e.resolved (ColorTag.expression groups) with
  | .ok shown => shown
  | .error _ => []

/-- **Tags are replaced exactly if all of them resolve,** and then each by what it shows. -/
theorem tagged_eq_ok_iff (e : Engine) {pieces : List Text.Piece} {painted : Text} :
    e.tagged pieces = .ok painted ↔
      (∀ w groups, .hit w groups ∈ pieces → ∃ shown, e.resolved (ColorTag.expression groups) = .ok shown) ∧
        pieces.flatMap (Text.Piece.replaced e.shownFor) = painted := by
  induction pieces generalizing painted with
  | nil => simp [tagged]
  | cons p more ih =>
    cases p with
    | plain c =>
      rw [tagged, map_eq_ok_iff]
      constructor
      · rintro ⟨rest, hrest, rfl⟩
        obtain ⟨hall, rfl⟩ := ih.1 hrest
        exact ⟨fun w groups hmem => hall w groups (List.mem_of_ne_of_mem (by simp) hmem), rfl⟩
      · rintro ⟨hall, rfl⟩
        exact ⟨_, ih.2 ⟨fun w groups hmem => hall w groups (List.mem_cons_of_mem _ hmem), rfl⟩, rfl⟩
    | hit w groups =>
      have hfirst : Text.Piece.replaced e.shownFor (.hit w groups) = e.shownFor w groups := rfl
      rw [tagged, List.flatMap_cons, hfirst, shownFor]
      cases hresolved : e.resolved (ColorTag.expression groups) with
      | error u =>
        constructor
        · intro h
          cases h
        · rintro ⟨hall, -⟩
          obtain ⟨shown, hshown⟩ := hall w groups (List.mem_cons_self ..)
          rw [hresolved] at hshown
          cases hshown
      | ok shown =>
        dsimp only
        rw [map_eq_ok_iff]
        constructor
        · rintro ⟨rest, hrest, rfl⟩
          obtain ⟨hall, rfl⟩ := ih.1 hrest
          refine ⟨fun v other hmem => ?_, rfl⟩
          rcases List.mem_cons.1 hmem with hhere | hlater
          · cases hhere
            exact ⟨shown, hresolved⟩
          · exact hall v other hlater
        · rintro ⟨hall, rfl⟩
          exact ⟨_, ih.2 ⟨fun v other hmem => hall v other (List.mem_cons_of_mem _ hmem), rfl⟩, rfl⟩

/-- What an engine that can be reached shows has neither dollar signs nor braces. -/
theorem Reachable.unmarked_shownFor {e : Engine} (he : e.Reachable) (w : Text)
    (groups : List (Option Text)) {c : Char} (hc : c ∉ Sgr.sequenceChars) : c ∉ e.shownFor w groups := by
  unfold shownFor
  split
  · rename_i shown hshown
    exact fun hm => hc ((he.showsStyles _ _ hshown).mem_sequenceChars c hm)
  · exact List.not_mem_nil

/-- Whether a tag comes together in what is painted: between a dollar sign and a closing brace stands no
opening, but what is painted of it is one. -/
def PaintsTag (e : Engine) (t : Text) : Prop :=
  ∃ v inside, '$' :: (v ++ ['\x7d']) <:+: t ∧ ¬ IsOpening v ∧ (e.rawPaint v).1 = .ok inside ∧ IsOpening inside

/-- The expressions of all tags in a text resolve. -/
def AllResolve (e : Engine) (t : Text) : Prop :=
  ∀ w groups, .hit w groups ∈ Text.pieces ColorTag.standard.scan t →
    ∃ shown, e.resolved (ColorTag.expression groups) = .ok shown

section Reachable

variable {e : Engine} (he : e.Reachable) (htag : e.config.colorTag = ColorTag.standard)
  (hhtml : e.config.htmlTags = false)
include he htag hhtml

/-- **To paint without markup is to replace tags,** if all of them resolve. -/
theorem Reachable.rawPaint_eq_ok_iff {t painted : Text} :
    (e.rawPaint t).1 = .ok painted ↔
      e.AllResolve t ∧ Text.replace ColorTag.standard.scan e.shownFor t = painted := by
  have hbridge : e.bridge e.config.enabled = id := by
    funext u
    rw [bridge, hhtml, if_neg Bool.false_ne_true, id]
  have hmap : ∀ answer : Except Refusal Text, answer.map id = answer := by
    rintro (u | u) <;> rfl
  rw [he.coherent.fst_rawPaint, rawPainted_eq (htag ▸ ColorTag.readsText_standard), hbridge, hmap, htag]
  exact e.tagged_eq_ok_iff

/-- **What was painted stays as it is exactly if there is no tag in it.** -/
theorem Reachable.rawPaint_eq_self_iff {t : Text} :
    (e.rawPaint t).1 = .ok t ↔ ¬ Text.Holds ColorTag.Braced t := by
  have hsame : Text.replace ColorTag.standard.scan e.shownFor t = t ↔ ¬ Text.Holds ColorTag.Braced t :=
    ColorTag.finds_standard.replace_eq_self_iff _ (fun _ _ => ColorTag.dollar_mem)
      (fun w groups _ => he.unmarked_shownFor w groups (by decide))
  rw [he.rawPaint_eq_ok_iff htag hhtml, hsame]
  refine and_iff_right_of_imp fun hnone w groups hmem => ?_
  exact absurd (ColorTag.finds_standard.holds_of_mem_pieces hmem) hnone

/-- **There is a tag in what was painted exactly if one came together.** -/
theorem Reachable.holds_painted_iff {t painted : Text} (h : (e.rawPaint t).1 = .ok painted) :
    Text.Holds ColorTag.Braced painted ↔ e.PaintsTag t := by
  obtain ⟨hall, rfl⟩ := (he.rawPaint_eq_ok_iff htag hhtml).1 h
  rw [ColorTag.holds_iff]
  constructor
  · rintro ⟨x, hx, hin⟩
    obtain ⟨v, hin', hv, hpieces, hnot⟩ := ColorTag.finds_standard.exists_of_infix_replace e.shownFor
      (fun w groups _ => he.unmarked_shownFor w groups (by decide))
      (fun w groups _ => he.unmarked_shownFor w groups (by decide)) hin
    have hpart : e.AllResolve v := fun w groups hmem => hall w groups (hpieces.subset hmem)
    exact ⟨v, x, hin', fun hopening => hnot _ (ColorTag.braced_iff.2 ⟨hopening, rfl⟩),
      (he.rawPaint_eq_ok_iff htag hhtml).2 ⟨hpart, hv⟩, hx⟩
  · rintro ⟨v, inside, ⟨a, b, rfl⟩, hnot, hv, hinside⟩
    obtain ⟨-, rfl⟩ := (he.rawPaint_eq_ok_iff htag hhtml).1 hv
    have htorn := ColorTag.replace_torn hinside.opensOnce b hnot a
    refine ⟨_, hinside, Text.replace ColorTag.standard.scan e.shownFor a,
      Text.replace ColorTag.standard.scan e.shownFor b, ?_⟩
    simp only [List.append_assoc, List.cons_append, List.nil_append, htorn]

end Reachable

/-- **Painted text survives repainting exactly if no tag came together in it.**  The engine that paints again
is the one that is left by the first painting. -/
theorem Reachable.rawPaint_rawPaint_iff {e : Engine} (he : e.Reachable)
    (htag : e.config.colorTag = ColorTag.standard) (hhtml : e.config.htmlTags = false) {t painted : Text}
    (h : (e.rawPaint t).1 = .ok painted) :
    ((e.rawPaint t).2.rawPaint painted).1 = .ok painted ↔ ¬ e.PaintsTag t := by
  have hl := lookUps_rawPaint e t
  have hagain : ((e.rawPaint t).2.rawPaint painted).1 = (e.rawPaint painted).1 := by
    rw [(he.coherent.lookUps hl).fst_rawPaint, hl.sameButCache.rawPainted, he.coherent.fst_rawPaint]
  rw [hagain, he.rawPaint_eq_self_iff htag hhtml, he.holds_painted_iff htag hhtml h]

/-- An opening without an end in front of a tag stays without one. -/
theorem rawPaint_rawPaint_warn :
    (warner.rawPaint "$\x7ba${warn}b".toList).1 =
        .ok ("$\x7ba".toList ++ Sgr.sequence ["1;33".toList] ++ ['b']) ∧
      ¬ warner.PaintsTag "$\x7ba${warn}b".toList := by
  have hfirst : (warner.rawPaint "$\x7ba${warn}b".toList).1 =
      .ok ("$\x7ba".toList ++ Sgr.sequence ["1;33".toList] ++ ['b']) := ok_of_toOption (by decide)
  have hreach : warner.Reachable := .made warning rfl rfl
  exact ⟨hfirst, (hreach.rawPaint_rawPaint_iff rfl rfl hfirst).1 (ok_of_toOption (by decide))⟩

/-- **Painted text can be painted anew, or rejected.**  What an engine that renders paints of
`ColorTag.joined` is a tag, which is painted the second time; what it paints of a tag around another one is
a tag with a sequence in its expression, which does not resolve. -/
theorem rawPaint_rawPaint_joined : warner.Reachable ∧ warner.config.enabled = true ∧
    warner.config.htmlTags = false ∧ warner.config.colorTag = ColorTag.standard ∧
    Sgr.escape ∉ ColorTag.joined ∧
    (warner.rawPaint ColorTag.joined).1 = .ok (ColorTag.braced "bold".toList) ∧
    ((warner.rawPaint ColorTag.joined).2.rawPaint (ColorTag.braced "bold".toList)).1 =
      .ok (Sgr.sequence ["1".toList]) ∧
    ∃ within, within = 'a' :: Sgr.sequence ["1".toList] ++ ['b'] ∧
      (warner.rawPaint "$\x7ba${bold}b\x7d".toList).1 = .ok (ColorTag.braced within) ∧
      ((warner.rawPaint "$\x7ba${bold}b\x7d".toList).2.rawPaint (ColorTag.braced within)).1 =
        .error (.unresolvable ⟨within, within⟩) := by
  refine ⟨.made warning rfl rfl, rfl, rfl, rfl, by decide, ?_, ?_, _, rfl, ?_, ?_⟩
  · exact ok_of_toOption (by decide)
  · exact ok_of_toOption (by decide)
  · exact ok_of_toOption (by decide)
  · decide

end Engine
end TermStyle
