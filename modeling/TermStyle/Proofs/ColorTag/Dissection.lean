/-
# Texts taken apart at their tags

Every text can be written as text without a tag, a tag, text without a tag, and so on (`Dissection`), and in one
way only (`existsUnique_dissection`): tags do not overlap, so the tags of such a writing are all that stand
anywhere in the text.

| text | in front | tags, each with the text behind it |
| --- | --- | --- |
| `a${b}c` | `a` | `b` `c` |
| `$${b}` | `$` | `b` |
| `${a${b}c}` | `${a` | `b` `c}` |
| `${}}` | | the empty expression, `}` |
| `${a` | `${a` | |

What stands between tags may have any braces and dollar signs in it, as long as they make no tag.  No tag lies
across the place where another one begins: it would have a brace in its expression (`pieces_append_braced`).  So
the scan cuts a text just where it is taken apart (`Dissection.pieces_source`).  From the pieces the parts can be
read back (`parts_pieces`), and that is why there is no other way to take the text apart.
-/

import TermStyle.Proofs.ColorTag.Torn

namespace TermStyle
namespace ColorTag

open Text (Piece)

/-- A text without an inline tag, and inline tags, each with a text without one behind it. -/
@[ext] structure Dissection where
  /-- The text in front of the first tag. -/
  front : Text
  /-- The tags: of each one the expression, and the text behind it up to the next. -/
  tags : List (Text × Text)
  /-- No tag stands in front. -/
  front_free : ¬ Text.Holds Braced front
  /-- No expression has a brace in it, and no tag stands behind one of the tags before the next. -/
  tags_free : ∀ tag ∈ tags, (∀ c ∈ tag.1, isInner c = true) ∧ ¬ Text.Holds Braced tag.2

/-- The text that was taken apart. -/
def Dissection.source (d : Dissection) : Text := d.front ++ d.tags.flatMap fun tag => braced tag.1 ++ tag.2

/-- Whether a text has a brace in it is found out from its characters, and not from all that there are. -/
instance (x : Text) : Decidable (∀ c ∈ x, isInner c = true) :=
  decidable_of_iff (x.all isInner = true) List.all_eq_true

/-- Whether a tag stands in a text is found out by taking the tags out. -/
instance (t : Text) : Decidable (Text.Holds Braced t) :=
  decidable_of_iff (¬ Text.strip standard.scan t = t) <| by
    rw [Text.strip, finds_standard.replace_eq_self_iff _ (fun _ _ => dollar_mem) fun _ _ _ => List.not_mem_nil,
      not_not]

/-- **Where no tag stands, every character is a piece.** -/
theorem pieces_of_not_holds {t : Text} (ht : ¬ Text.Holds Braced t) :
    Text.pieces standard.scan t = t.map .plain := by
  induction t with
  | nil => exact finds_standard.pieces_nil
  | cons c t ih =>
    obtain ⟨hbegins, hholds⟩ := not_or.1 (mt Text.holds_cons.2 ht)
    rw [finds_standard.pieces_cons hbegins, ih hholds, List.map_cons]

/-- **Where a tag begins, no other one goes on.** -/
theorem pieces_append_braced (t x rest : Text) :
    Text.pieces standard.scan (t ++ (braced x ++ rest)) =
      Text.pieces standard.scan t ++ Text.pieces standard.scan (braced x ++ rest) := by
  refine finds_standard.pieces_append fun u w groups _ hu hw hform hpre => ?_
  have hpre : w <+: '$' :: '\x7b' :: (x ++ ['\x7d'] ++ rest) := hpre
  rcases hform.behind hu hw with hhead | ⟨body, rfl, hbody⟩
  · obtain ⟨w, rfl⟩ := List.head?_eq_some_iff.1 hhead
    exact absurd (List.cons_prefix_cons.1 hpre).1 (by decide)
  · -- What is left of the other tag would have the opening brace in its expression, or be closed before it.
    cases body with
    | nil => exact absurd (List.cons_prefix_cons.1 hpre).1 (by decide)
    | cons c body =>
      have hbrace := (List.cons_prefix_cons.1 hpre).2
      cases body with
      | nil => exact absurd (List.cons_prefix_cons.1 hbrace).1 (by decide)
      | cons d body =>
        obtain rfl : d = '\x7b' := (List.cons_prefix_cons.1 hbrace).1
        exact (braces_not_mem hbody).1 (List.mem_cons_of_mem _ (List.mem_cons_self ..))

/-- Tags and the texts behind them, as pieces. -/
def tagPieces (tags : List (Text × Text)) : List Piece :=
  tags.flatMap fun tag => .hit (braced tag.1) [some tag.1] :: tag.2.map .plain

theorem tagPieces_cons (x behind : Text) (more : List (Text × Text)) :
    tagPieces ((x, behind) :: more) =
      .hit (braced x) [some x] :: (behind.map .plain ++ tagPieces more) := rfl

/-- **The scan cuts a text just where it is taken apart.** -/
theorem Dissection.pieces_source (d : Dissection) :
    Text.pieces standard.scan d.source = d.front.map .plain ++ tagPieces d.tags := by
  obtain ⟨front, tags, hfront, htags⟩ := d
  simp only [source]
  induction tags generalizing front with
  | nil => rw [List.flatMap_nil, List.append_nil, pieces_of_not_holds hfront, tagPieces, List.flatMap_nil,
      List.append_nil]
  | cons tag more ih =>
    obtain ⟨x, behind⟩ := tag
    obtain ⟨⟨hx, hbehind⟩, hmore⟩ := List.forall_mem_cons.1 htags
    rw [List.flatMap_cons, List.append_assoc, pieces_append_braced, pieces_of_not_holds hfront,
      pieces_braced_append hx, ih behind hbehind hmore]
    rfl

/-- The text in front of the first hit among pieces, and the expressions of the hits with the texts behind
them. -/
def parts : List Piece → Text × List (Text × Text)
  | [] => ([], [])
  | .plain c :: more => (c :: (parts more).1, (parts more).2)
  | .hit _ groups :: more => ([], (expression groups, (parts more).1) :: (parts more).2)

theorem parts_plain_append (t : Text) (more : List Piece) :
    parts (t.map .plain ++ more) = (t ++ (parts more).1, (parts more).2) := by
  induction t with
  | nil => rfl
  | cons c t ih => rw [List.map_cons, List.cons_append, parts, ih, List.cons_append]

/-- **The parts of a text are read back from its pieces.** -/
theorem parts_pieces (front : Text) (tags : List (Text × Text)) :
    parts (front.map .plain ++ tagPieces tags) = (front, tags) := by
  induction tags generalizing front with
  | nil =>
    rw [parts_plain_append, tagPieces, List.flatMap_nil, parts, List.append_nil]
  | cons tag more ih =>
    obtain ⟨x, behind⟩ := tag
    rw [parts_plain_append, tagPieces_cons, parts, ih, List.append_nil]
    rfl

theorem exists_dissection (t : Text) : ∃ d : Dissection, d.source = t := by
  have hnil : ¬ Text.Holds Braced [] := by decide
  induction t using finds_standard.induction with
  | nil => exact ⟨⟨[], [], hnil, fun _ hmem => absurd hmem List.not_mem_nil⟩, rfl⟩
  | plain c rest hnot ih =>
    obtain ⟨d, rfl⟩ := ih
    have hfree : ¬ Text.Holds Braced (c :: d.front) := fun hholds =>
      (Text.holds_cons.1 hholds).elim (fun hbegins => hnot (hbegins.append _)) d.front_free
    exact ⟨⟨c :: d.front, d.tags, hfree, d.tags_free⟩, rfl⟩
  | hit w groups rest hw ih =>
    obtain ⟨x, rfl, hx, -⟩ := hw
    obtain ⟨d, rfl⟩ := ih
    exact ⟨⟨[], (x, d.front) :: d.tags, hnil, List.forall_mem_cons.2 ⟨⟨hx, d.front_free⟩, d.tags_free⟩⟩,
      List.append_assoc ..⟩

/-- **Every text can be taken apart at its tags,** and in one way only. -/
theorem existsUnique_dissection (t : Text) : ∃! d : Dissection, d.source = t := by
  obtain ⟨d, hd⟩ := exists_dissection t
  refine ⟨d, hd, fun other hother => ?_⟩
  have hsame : (other.front, other.tags) = (d.front, d.tags) := by
    rw [← parts_pieces, ← parts_pieces, ← other.pieces_source, ← d.pieces_source, hother, hd]
  obtain ⟨hfront, htags⟩ := Prod.mk.inj hsame
  exact Dissection.ext hfront htags

end ColorTag
end TermStyle
