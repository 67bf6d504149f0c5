/-
# Tags that come together

A dollar sign, an opening brace, anything but braces and a closing brace are a tag.  Where something stands
in between that the scan takes for a tag of its own, the outer characters are left over, and what the inner
one gives way to brings them together:

| text | tags | what is left, if they are taken out |
| --- | --- | --- |
| `$${dim}{bold}` | `${dim}` | `${bold}` |
| `${a${dim}b}` | `${dim}` | `${ab}` |
| `${${dim}bold}` | `${dim}` | `${bold}` |

So what is a tag then is read off from what stands between the dollar sign and the closing brace: it was no
opening brace with anything but braces behind it (`IsOpening`), and has become one.  `replace_torn` is the
converse, that nothing else keeps the two from coming together: no tag lies across the dollar sign or across
the closing brace, since its own braces would have stayed.
-/

import Mathlib.Data.List.Basic
import TermStyle.Proofs.ColorTag.Braced
import TermStyle.Proofs.Text.Rescan

namespace TermStyle
namespace ColorTag

open Text (Begins pieces replace)

/-- Whether a text opens a brace and goes on with anything but braces: what a dollar sign in front and a
closing brace behind make a tag of. -/
def IsOpening (x : Text) : Prop := ∃ body, x = '\x7b' :: body ∧ ∀ c ∈ body, isInner c = true

/-- What may stand in a tag has no braces. -/
theorem braces_not_mem {body : Text} (h : ∀ c ∈ body, isInner c = true) : '\x7b' ∉ body ∧ '\x7d' ∉ body :=
  ⟨fun hm => absurd (h _ hm) (by decide), fun hm => absurd (h _ hm) (by decide)⟩

/-- **A tag is an opening between a dollar sign and a closing brace.** -/
theorem braced_iff {v : Text} {groups : List (Option Text)} :
    Braced ('$' :: (v ++ ['\x7d'])) groups ↔ IsOpening v ∧ groups = [some v.tail] := by
  constructor
  · rintro ⟨body, hv, hbody, rfl⟩
    obtain rfl : v = '\x7b' :: body := List.append_cancel_right (List.cons.inj hv).2
    exact ⟨⟨body, rfl, hbody⟩, rfl⟩
  · rintro ⟨⟨body, rfl, hbody⟩, rfl⟩
    exact ⟨body, rfl, hbody, rfl⟩

theorem holds_iff {t : Text} :
    Text.Holds Braced t ↔ ∃ x, IsOpening x ∧ '$' :: (x ++ ['\x7d']) <:+: t := by
  constructor
  · rintro ⟨w, groups, ⟨body, rfl, hbody, -⟩, hin⟩
    exact ⟨'\x7b' :: body, ⟨body, rfl, hbody⟩, hin⟩
  · rintro ⟨x, hx, hin⟩
    exact ⟨_, _, braced_iff.2 ⟨hx, rfl⟩, hin⟩

theorem dollar_mem {w : Text} {groups : List (Option Text)} (hw : Braced w groups) : '$' ∈ w := by
  obtain ⟨body, rfl, -⟩ := hw
  exact List.mem_cons_self ..

/-- What stands in a tag behind some of its characters begins with the opening brace, or closes it. -/
theorem Braced.behind {u w : Text} {groups : List (Option Text)} (h : Braced (u ++ w) groups) (hu : u ≠ [])
    (hw : w ≠ []) : w.head? = some '\x7b' ∨ ∃ body, w = body ++ ['\x7d'] ∧ ∀ c ∈ body, isInner c = true := by
  obtain ⟨body, huw, hbody, -⟩ := h
  obtain ⟨c, u, rfl⟩ := List.exists_cons_of_ne_nil hu
  obtain ⟨-, huw⟩ := List.cons.inj huw
  cases u with
  | nil =>
    refine .inl ?_
    have hw' : w = '\x7b' :: (body ++ ['\x7d']) := huw
    rw [hw', List.head?_cons]
  | cons d u =>
    obtain ⟨-, huw⟩ := List.cons.inj huw
    have huw : u ++ w = body ++ ['\x7d'] := huw
    rcases List.append_eq_append_iff.1 huw with ⟨rest, rfl, rfl⟩ | ⟨rest, -, hrest⟩
    · exact .inr ⟨rest, rfl, fun c hc => hbody c (List.mem_append_right u hc)⟩
    · cases rest with
      | nil => exact .inr ⟨[], hrest.symm, fun c hc => absurd hc List.not_mem_nil⟩
      | cons e rest =>
        obtain ⟨-, hrest⟩ := List.cons.inj hrest
        exact absurd (List.append_eq_nil_iff.1 hrest.symm).2 hw

/-- Whether a text has one brace, an opening one, and no dollar sign in front of it. -/
def OpensOnce (y : Text) : Prop :=
  ∃ p q, y = p ++ '\x7b' :: q ∧ (∀ c ∈ p, isInner c = true ∧ c ≠ '$') ∧ ∀ c ∈ q, isInner c = true

theorem IsOpening.opensOnce {x : Text} (h : IsOpening x) : OpensOnce x := by
  obtain ⟨body, rfl, hbody⟩ := h
  exact ⟨[], body, rfl, fun c hc => absurd hc List.not_mem_nil, hbody⟩

theorem OpensOnce.close_not_mem {y : Text} (h : OpensOnce y) : '\x7d' ∉ y := by
  obtain ⟨p, q, rfl, hp, hq⟩ := h
  have hp' := (braces_not_mem fun c hc => (hp c hc).1).2
  simp only [List.mem_append, List.mem_cons, not_or]
  exact ⟨hp', by decide, (braces_not_mem hq).2⟩

theorem OpensOnce.open_mem {y : Text} (h : OpensOnce y) : '\x7b' ∈ y := by
  obtain ⟨p, q, rfl, -⟩ := h
  exact List.mem_append_right p (List.mem_cons_self ..)

/-- The brace does not stand behind a dollar sign. -/
theorem OpensOnce.ne_dollar {y : Text} (h : OpensOnce y) (a b : Text) : y ≠ a ++ '$' :: '\x7b' :: b := by
  obtain ⟨p, q, rfl, hp, hq⟩ := h
  intro hab
  have hp' := (braces_not_mem fun c hc => (hp c hc).1).1
  have hab : p ++ '\x7b' :: q = (a ++ ['$']) ++ '\x7b' :: b := by
    rw [hab, List.append_assoc, List.singleton_append]
  obtain ⟨rfl, -⟩ := (List.append_cons_inj_of_notMem hp' (braces_not_mem hq).1).1 hab
  exact (hp '$' (List.mem_append_right a (List.mem_singleton_self _))).2 rfl

variable {instead : Text → List (Option Text) → Text}

/-- A closing brace stays if no opening one comes before it. -/
theorem close_mem_replace {body : Text} (hbody : ∀ c ∈ body, isInner c = true) (rest : Text) :
    '\x7d' ∈ replace standard.scan instead (body ++ '\x7d' :: rest) := by
  have hnot : ¬ Begins Braced ('\x7d' :: rest) := not_begins (.inl (by decide))
  rw [replace, pieces_append_of_not_mem (braces_not_mem hbody).1 (by simp), finds_standard.pieces_cons hnot]
  refine List.mem_flatMap.2 ⟨.plain '\x7d', ?_, List.mem_singleton_self _⟩
  exact List.mem_append_right _ (List.mem_cons_self ..)

/-- A dollar sign and an opening brace stay if no closing brace comes behind them. -/
theorem replace_append_unclosed (a : Text) {b : Text} (hb : '\x7d' ∉ b) :
    replace standard.scan instead (a ++ '$' :: '\x7b' :: b) =
      replace standard.scan instead a ++ '$' :: '\x7b' :: b := by
  have hclose : '\x7d' ∉ '$' :: '\x7b' :: b := by
    simp only [List.mem_cons, not_or]
    exact ⟨by decide, by decide, hb⟩
  have hcut : pieces standard.scan (a ++ '$' :: '\x7b' :: b) =
      pieces standard.scan a ++ pieces standard.scan ('$' :: '\x7b' :: b) := by
    refine finds_standard.pieces_append fun u w groups _ hu hw hform hpre => ?_
    rcases hform.behind hu hw with hhead | ⟨body, rfl, -⟩
    · obtain ⟨w, rfl⟩ := List.head?_eq_some_iff.1 hhead
      exact absurd (List.cons_prefix_cons.1 hpre).1 (by decide)
    · exact hclose (hpre.subset (List.mem_append_right body (List.mem_singleton_self _)))
  have hnone : ¬ Text.Holds Braced ('$' :: '\x7b' :: b) := by
    rw [holds_iff]
    rintro ⟨x, -, hin⟩
    exact hclose (hin.subset (List.mem_cons_of_mem _ (List.mem_append_right x (List.mem_singleton_self _))))
  calc replace standard.scan instead (a ++ '$' :: '\x7b' :: b)
      = replace standard.scan instead a ++ replace standard.scan instead ('$' :: '\x7b' :: b) := by
        simp only [replace, hcut, List.flatMap_append]
    _ = replace standard.scan instead a ++ '$' :: '\x7b' :: b := by
        rw [finds_standard.replace_of_not_holds instead hnone]

section Torn

variable {v : Text} (hv : OpensOnce (replace standard.scan instead v)) (b : Text)
include hv

/-- What is closed first, in front of the closing brace, has been opened there. -/
theorem not_closed_prefix {body : Text} (hbody : ∀ c ∈ body, isInner c = true) :
    ¬ body ++ ['\x7d'] <+: v ++ '\x7d' :: b := by
  obtain ⟨hopen, hclose⟩ := braces_not_mem hbody
  intro hpre
  rcases Text.prefix_cut hclose hpre with rfl | ⟨rest, rfl⟩
  · have hnone : ¬ Text.Holds Braced body := by
      rw [holds_iff]
      rintro ⟨x, ⟨inner, rfl, -⟩, hin⟩
      exact hopen (hin.subset (by simp))
    rw [finds_standard.replace_of_not_holds instead hnone] at hv
    exact hopen hv.open_mem
  · rw [List.append_assoc] at hv
    exact hv.close_not_mem (close_mem_replace hbody rest)

/-- A tag that lies across the dollar sign would be closed before anything is opened. -/
theorem pieces_append_dollar (a : Text) :
    pieces standard.scan (a ++ '$' :: (v ++ '\x7d' :: b)) =
      pieces standard.scan a ++ pieces standard.scan ('$' :: (v ++ '\x7d' :: b)) := by
  refine finds_standard.pieces_append fun u w groups _ hu hw hform hpre => ?_
  rcases hform.behind hu hw with hhead | ⟨body, rfl, hbody⟩
  · obtain ⟨w, rfl⟩ := List.head?_eq_some_iff.1 hhead
    exact absurd (List.cons_prefix_cons.1 hpre).1 (by decide)
  · cases body with
    | nil => exact absurd (List.cons_prefix_cons.1 hpre).1 (by decide)
    | cons c body =>
      have hpre : body ++ ['\x7d'] <+: v ++ '\x7d' :: b := (List.cons_prefix_cons.1 hpre).2
      exact not_closed_prefix hv b (fun c hc => hbody c (List.mem_cons_of_mem _ hc)) hpre

/-- A tag that begins with the dollar sign would be closed by a brace that stays. -/
theorem not_begins_dollar (hnot : ¬ IsOpening v) : ¬ Begins Braced ('$' :: (v ++ '\x7d' :: b)) := by
  rintro ⟨w, groups, ⟨body, rfl, hbody, -⟩, hpre⟩
  have hclose : '\x7d' ∉ '\x7b' :: body := by
    simp only [List.mem_cons, not_or]
    exact ⟨by decide, (braces_not_mem hbody).2⟩
  have hpre : ('\x7b' :: body) ++ ['\x7d'] <+: v ++ '\x7d' :: b := (List.cons_prefix_cons.1 hpre).2
  rcases Text.prefix_cut hclose hpre with rfl | ⟨rest, rfl⟩
  · exact hnot ⟨body, rfl, hbody⟩
  · refine hv.close_not_mem ?_
    rw [List.append_assoc, List.cons_append,
      finds_standard.replace_cons instead (not_begins (.inl (by decide)))]
    exact List.mem_cons_of_mem _ (close_mem_replace hbody rest)

/-- A tag that lies across the closing brace would have left its dollar sign in front of its opening
brace. -/
theorem pieces_append_close :
    pieces standard.scan (v ++ '\x7d' :: b) =
      pieces standard.scan v ++ pieces standard.scan ('\x7d' :: b) := by
  refine finds_standard.pieces_append fun u w groups hsuf hu hw hform hpre => ?_
  obtain ⟨c, w, rfl⟩ := List.exists_cons_of_ne_nil hw
  obtain ⟨rfl, -⟩ := List.cons_prefix_cons.1 hpre
  obtain ⟨body, huw, hbody, -⟩ := hform
  have hclose := (braces_not_mem hbody).2
  have hfront : '\x7d' ∉ '$' :: '\x7b' :: body := by
    simp only [List.mem_cons, not_or]
    exact ⟨by decide, by decide, hclose⟩
  obtain ⟨rfl, -⟩ := (List.append_cons_inj_of_notMem hfront List.not_mem_nil).1 huw.symm
  obtain ⟨front, rfl⟩ := hsuf
  exact hv.ne_dollar _ body (replace_append_unclosed front hclose)

/-- **The dollar sign and the closing brace stay,** and what is between them is replaced by itself. -/
theorem replace_torn (hnot : ¬ IsOpening v) (a : Text) :
    replace standard.scan instead (a ++ '$' :: (v ++ '\x7d' :: b)) =
      replace standard.scan instead a ++
        '$' :: (replace standard.scan instead v ++ '\x7d' :: replace standard.scan instead b) := by
  have hlast : ¬ Begins Braced ('\x7d' :: b) := not_begins (.inl (by decide))
  simp only [replace, pieces_append_dollar hv b a, finds_standard.pieces_cons (not_begins_dollar hv b hnot),
    pieces_append_close hv b, finds_standard.pieces_cons hlast, List.flatMap_append, List.flatMap_cons,
    Text.Piece.replaced, List.singleton_append]

end Torn

/-- A tag without an expression, between a dollar sign and the braces that it could have. -/
def joined : Text := "$${}\x7bbold\x7d".toList

end ColorTag
end TermStyle
