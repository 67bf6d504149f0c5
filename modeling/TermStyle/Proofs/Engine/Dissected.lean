/-
# Painting texts that were taken apart

A text is taken apart at its inline tags in one way only (`ColorTag.existsUnique_dissection`).  To paint it, where
markup is left alone, is to put it together again with the sequence of each expression in the place of its tag:

| the expressions | what is painted |
| --- | --- |
| all of them resolve | the text in front, then for each tag its sequence and the text behind it |
| one does not | nothing: it fails with what the first of these fails with |

The engine resolves the expressions one after another and keeps each sequence, but none of them changes what
another one gives.  So each can be said of the engine as it was before (`Reachable.rawPaint_dissection`).
-/

import TermStyle.Proofs.ColorTag.Dissection
import TermStyle.Proofs.Engine.Painting

namespace TermStyle

set_option maxRecDepth 4000
namespace Engine

open ColorTag (Dissection tagPieces)

/-- Text in front of a text whose tags are replaced stays in front. -/
theorem tagged_map_plain_append (e : Engine) (t : Text) (more : List Text.Piece) :
    e.tagged (t.map .plain ++ more) = (e.tagged more).map (t ++ ·) := by
  induction t with
  | nil =>
    rw [List.map_nil, List.nil_append]
    cases e.tagged more <;> rfl
  | cons c t ih =>
    rw [List.map_cons, List.cons_append, tagged, ih]
    cases e.tagged more <;> rfl

section Tags

variable {e : Engine} {x : Text}

/-- A tag gives way to its sequence, and the text behind it stays. -/
theorem tagged_tagPieces_of_ok {s : Text} (hx : e.resolved x = .ok s) (behind : Text) (more : List (Text × Text)) :
    e.tagged (tagPieces ((x, behind) :: more)) = (e.tagged (tagPieces more)).map ((s ++ behind) ++ ·) := by
  have hexpression : ColorTag.expression [some x] = x := rfl
  rw [ColorTag.tagPieces_cons, tagged, hexpression, hx]
  dsimp only
  rw [tagged_map_plain_append]
  cases e.tagged (tagPieces more) with
  | error u => rfl
  | ok painted => exact congrArg Except.ok (List.append_assoc s behind painted).symm

/-- A tag that does not resolve ends it. -/
theorem tagged_tagPieces_of_error {u : Refusal} (hx : e.resolved x = .error u) (behind : Text)
    (more : List (Text × Text)) : e.tagged (tagPieces ((x, behind) :: more)) = .error u := by
  have hexpression : ColorTag.expression [some x] = x := rfl
  rw [ColorTag.tagPieces_cons, tagged, hexpression, hx]

end Tags

/-- **If all expressions resolve,** each tag gives way to its sequence. -/
theorem tagged_tagPieces_of_all {e : Engine} {tags : List (Text × Text)} {shown : Text → Text}
    (h : ∀ tag ∈ tags, e.resolved tag.1 = .ok (shown tag.1)) :
    e.tagged (tagPieces tags) = .ok (tags.flatMap fun tag => shown tag.1 ++ tag.2) := by
  induction tags with
  | nil => rfl
  | cons tag more ih =>
    obtain ⟨hfirst, hmore⟩ := List.forall_mem_cons.1 h
    rw [tagged_tagPieces_of_ok hfirst, ih hmore]
    rfl

/-- **The first expression that does not resolve** is what the replacement fails with. -/
theorem tagged_tagPieces_of_first {e : Engine} {done later : List (Text × Text)} {x behind : Text}
    {u : Refusal} (hdone : ∀ tag ∈ done, ∃ s, e.resolved tag.1 = .ok s)
    (hx : e.resolved x = .error u) : e.tagged (tagPieces (done ++ (x, behind) :: later)) = .error u := by
  induction done with
  | nil => exact tagged_tagPieces_of_error hx behind later
  | cons tag done ih =>
    obtain ⟨⟨s, hs⟩, hdone⟩ := List.forall_mem_cons.1 hdone
    rw [List.cons_append, tagged_tagPieces_of_ok hs, ih hdone]
    rfl

/-- What is painted without markup of a text that was taken apart. -/
theorem rawPainted_dissection {e : Engine} (htag : e.config.colorTag = ColorTag.standard)
    (hhtml : e.config.htmlTags = false) (d : Dissection) :
    e.rawPainted d.source = (e.tagged (tagPieces d.tags)).map (d.front ++ ·) := by
  have hbridge : e.bridge e.config.enabled = id := by
    funext u
    rw [bridge, hhtml, if_neg Bool.false_ne_true, id]
  rw [rawPainted_eq (htag ▸ ColorTag.readsText_standard), htag, d.pieces_source, tagged_map_plain_append, hbridge]
  cases e.tagged (tagPieces d.tags) <;> rfl

/-- **Tags are replaced where they stand, and nothing else is.**  Every text can be taken apart at its inline
tags in one way.  If all of their expressions resolve, what is painted is the text in front of the first one, and
then for each of them its sequence and the text behind it.  Otherwise painting fails with what the first
expression that does not resolve fails with. -/
theorem Reachable.rawPaint_dissection {e : Engine} (he : e.Reachable)
    (htag : e.config.colorTag = ColorTag.standard) (hhtml : e.config.htmlTags = false) (t : Text) :
    (∃! d : Dissection, d.source = t) ∧
    ∀ d : Dissection, d.source = t →
      (∀ shown : Text → Text, (∀ tag ∈ d.tags, (e.resolve tag.1).1 = .ok (shown tag.1)) →
        (e.rawPaint t).1 = .ok (d.front ++ d.tags.flatMap fun tag => shown tag.1 ++ tag.2)) ∧
      ∀ done x behind later u, d.tags = done ++ (x, behind) :: later →
        (∀ tag ∈ done, ∃ s, (e.resolve tag.1).1 = .ok s) → (e.resolve x).1 = .error u →
          (e.rawPaint t).1 = .error u := by
  refine ⟨ColorTag.existsUnique_dissection t, fun d hd => ?_⟩
  subst hd
  simp only [he.coherent.fst_resolve, he.coherent.fst_rawPaint, rawPainted_dissection htag hhtml]
  constructor
  · intro shown hshown
    rw [tagged_tagPieces_of_all hshown]
    rfl
  · intro done x behind later u htags hdone hx
    rw [htags, tagged_tagPieces_of_first hdone hx]
    rfl

/-- A dollar sign before a tag, another tag inside of an opening that is not closed, and one without an
expression. -/
def nestedTags : Dissection where
  front := ['$']
  tags := [("bold".toList, "\x7b$\x7ba".toList), ("warn".toList, "b\x7d".toList), ([], ['\x7d'])]
  front_free := by decide
  tags_free := by decide

/-- Two tags with an unknown expression each, behind one that resolves. -/
def unknownTags : Dissection where
  front := "a".toList
  tags := [("bold".toList, []), ("none".toList, "b".toList), ("nothing".toList, [])]
  front_free := by decide
  tags_free := by decide

/-- The first text is painted in parts, and the second one is not, for the first of its unknown expressions. -/
theorem rawPaint_dissection_nested : warner.Reachable ∧
    nestedTags.source = "$${bold}\x7b$\x7ba${warn}b\x7d${}\x7d".toList ∧
    (warner.rawPaint nestedTags.source).1 = .ok ('$' :: Sgr.sequence ["1".toList] ++ "\x7b$\x7ba".toList ++
      Sgr.sequence ["1;33".toList] ++ "b\x7d\x7d".toList) ∧
    unknownTags.source = "a${bold}${none}b${nothing}".toList ∧
    (warner.rawPaint unknownTags.source).1 = .error (.unresolvable ⟨"none".toList, "none".toList⟩) := by
  have hreach : warner.Reachable := .made warning rfl rfl
  obtain ⟨-, hnested⟩ := hreach.rawPaint_dissection rfl rfl nestedTags.source
  obtain ⟨-, hunknown⟩ := hreach.rawPaint_dissection rfl rfl unknownTags.source
  obtain ⟨hall, -⟩ := hnested nestedTags rfl
  obtain ⟨-, hfirst⟩ := hunknown unknownTags rfl
  let shown : Text → Text := fun x =>
    if x = "bold".toList then Sgr.sequence ["1".toList]
    else if x = "warn".toList then Sgr.sequence ["1;33".toList] else []
  have hshown : ∀ tag ∈ nestedTags.tags, (warner.resolve tag.1).1 = .ok (shown tag.1) := by
    have hok : ∀ tag ∈ nestedTags.tags, (warner.resolve tag.1).1.toOption = some (shown tag.1) := by decide
    exact fun tag htag => ok_of_toOption (hok tag htag)
  refine ⟨hreach, by decide, hall shown hshown, by decide, ?_⟩
  refine hfirst [("bold".toList, [])] _ "b".toList [("nothing".toList, [])] _ rfl (fun tag htag => ?_) rfl
  obtain rfl := List.mem_singleton.1 htag
  exact ⟨Sgr.sequence ["1".toList], ok_of_toOption (by decide)⟩

end Engine
end TermStyle
