/-
# Texts with tags in braces

The standard tag pattern finds a dollar sign and what stands in braces after it, so its hits are one
more delimited form (`finds_standard`): an opening of two characters, anything but braces, and the
closing brace.

Two facts say how a text with such tags is cut.  A tag is a piece by itself (`pieces_braced_append`).
Where a text has no opening brace, each of its characters is (`pieces_append_of_not_mem`), a dollar sign
at its end included: only an opening brace right behind it would make a tag of it.
-/

import TermStyle.ColorTag
import TermStyle.Proofs.Text.Delimited

namespace TermStyle
namespace ColorTag

/-- The form of standard tags: the expression is marked. -/
def Braced (w : Text) (groups : List (Option Text)) : Prop :=
  Text.Delimited ['$', '\x7b'] isInner '\x7d' (fun x => [some x]) w groups

/-- The standard tag for an expression. -/
def braced (x : Text) : Text := '$' :: '\x7b' :: (x ++ ['\x7d'])

theorem bracedScan_eq :
    bracedScan = Text.scanDelimited ['$', '\x7b'] isInner '\x7d' fun x => [some x] := by
  refine Text.unique_eq_scanDelimited (fun before body after hdrop => ?_) (fun before body hopen => ?_)
    fun before rest hother => ?_
  · simp [hdrop]
  · simp only [List.cons_append, List.nil_append]
    split
    · rename_i hdrop
      exact absurd (congrArg List.head? hdrop) hopen
    · rfl
  · split
    · rename_i body
      exact absurd ⟨body, rfl⟩ hother
    · rfl

/-- **Standard tags are what the standard pattern finds.** -/
theorem finds_standard : standard.scan.Finds Braced := by
  rw [scan_standard, bracedScan_eq]
  exact Text.finds_scanDelimited (by decide) _ _

/-- A character begins a standard tag only if it is the dollar sign before an opening brace. -/
theorem not_begins {c : Char} {rest : Text} (h : c ≠ '$' ∨ rest.head? ≠ some '\x7b') :
    ¬ Text.Begins Braced (c :: rest) := by
  rintro ⟨w, groups, ⟨body, rfl, -⟩, after, ht⟩
  have hshape : '$' :: '\x7b' :: (body ++ ['\x7d'] ++ after) = c :: rest := ht
  obtain ⟨rfl, rfl⟩ := List.cons.inj hshape
  rcases h with hc | hhead
  · exact hc rfl
  · exact hhead rfl

/-- **A standard tag is one piece.** -/
theorem pieces_braced_append {x : Text} (hx : ∀ c ∈ x, isInner c = true) (rest : Text) :
    Text.pieces standard.scan (braced x ++ rest) =
      .hit (braced x) [some x] :: Text.pieces standard.scan rest :=
  finds_standard.pieces_append_form ⟨x, rfl, hx, rfl⟩ rest

/-- **Without an opening brace, every character is a piece,** if none comes right behind it. -/
theorem pieces_append_of_not_mem {t rest : Text} (ht : '\x7b' ∉ t) (hrest : rest.head? ≠ some '\x7b') :
    Text.pieces standard.scan (t ++ rest) = t.map .plain ++ Text.pieces standard.scan rest := by
  induction t with
  | nil => rfl
  | cons c t ih =>
    have hnot : ¬ Text.Begins Braced (c :: (t ++ rest)) := by
      refine not_begins (.inr ?_)
      cases t with
      | nil => exact hrest
      | cons d t =>
        intro hd
        obtain rfl : d = '\x7b' := Option.some.inj hd
        exact ht (List.mem_cons_of_mem _ (List.mem_cons_self ..))
    have hmore := ih fun h => ht (List.mem_cons_of_mem _ h)
    rw [List.cons_append, finds_standard.pieces_cons hnot, hmore, List.map_cons, List.cons_append]

/-- Where there is no opening brace, there is no tag to take out. -/
theorem strip_of_not_mem {t : Text} (ht : '\x7b' ∉ t) : Text.strip standard.scan t = t := by
  have hend : ([] : Text).head? ≠ some '\x7b' := by decide
  have hpieces := pieces_append_of_not_mem ht hend
  rw [List.append_nil, finds_standard.pieces_nil, List.append_nil] at hpieces
  rw [Text.strip, Text.replace, hpieces, List.flatMap_map]
  exact List.flatMap_singleton' t

end ColorTag
end TermStyle
