/-
# Texts with other texts strewn in

To take out every hit of a form brings together what stood around it.  So a text can be read in
the result without having been there before: what was there is that text with texts of the form
strewn in (`Strewn`).

`exists_strewn_of_infix_strip` says where a text comes from that is read after the hits have been
taken out, and `infix_strip_of_strewn` says that what is strewn with hits is read then.
-/

import TermStyle.Proofs.Text.Forms

namespace TermStyle
namespace Text

/-- The second text is the first one with texts strewn in, at any places, as many as you like. -/
inductive Strewn (junk : Text → Prop) : Text → Text → Prop
  /-- Nothing is strewn into nothing. -/
  | nil : Strewn junk [] []
  /-- A character stays. -/
  | char (c : Char) {x w : Text} (h : Strewn junk x w) : Strewn junk (c :: x) (c :: w)
  /-- A text is strewn in. -/
  | junk {j x w : Text} (hj : junk j) (h : Strewn junk x w) : Strewn junk x (j ++ w)

namespace Strewn

variable {junk : Text → Prop}

theorem refl (x : Text) : Strewn junk x x := by
  induction x with
  | nil => exact .nil
  | cons c x ih => exact .char c ih

theorem imp {other : Text → Prop} (himp : ∀ j, junk j → other j) {x w : Text} (h : Strewn junk x w) :
    Strewn other x w := by
  induction h with
  | nil => exact .nil
  | char c _ ih => exact .char c ih
  | junk hj _ ih => exact .junk (himp _ hj) ih

theorem append {a b v w : Text} (hv : Strewn junk a v) (hw : Strewn junk b w) :
    Strewn junk (a ++ b) (v ++ w) := by
  induction hv with
  | nil => exact hw
  | char c _ ih => exact .char c ih
  | junk hj _ ih => exact List.append_assoc .. ▸ .junk hj ih

/-- What is in the strewn text is in the text or in something strewn in. -/
theorem mem_of_mem {x w : Text} (h : Strewn junk x w) {c : Char} (hc : c ∈ w) :
    c ∈ x ∨ ∃ j, junk j ∧ c ∈ j := by
  induction h with
  | nil => exact absurd hc List.not_mem_nil
  | char d _ ih =>
    rcases List.mem_cons.1 hc with rfl | hc
    · exact .inl (List.mem_cons_self ..)
    · exact (ih hc).imp_left (List.mem_cons_of_mem _)
  | junk hj _ ih =>
    rcases List.mem_append.1 hc with hc | hc
    · exact .inr ⟨_, hj, hc⟩
    · exact ih hc

/-- Where there is nothing to be strewn, nothing changes. -/
theorem eq_of_forall_not {x w : Text} (h : Strewn junk x w) (hnone : ∀ j, ¬ junk j) : w = x := by
  induction h with
  | nil => rfl
  | char c _ ih => rw [ih]
  | junk hj => exact absurd hj (hnone _)

/-- What begins the strewn text, and has no character with which something strewn in begins, begins
the text itself. -/
theorem prefix_of_prefix {first : Char} (hjunk : ∀ j, junk j → j.head? = some first) {x w q : Text}
    (h : Strewn junk x w) (hq : first ∉ q) (hpre : q <+: w) : q <+: x := by
  induction h generalizing q with
  | nil => exact hpre
  | char c _ ih =>
    cases q with
    | nil => exact List.nil_prefix
    | cons d q =>
      obtain ⟨rfl, hrest⟩ := List.cons_prefix_cons.1 hpre
      exact List.cons_prefix_cons.2 ⟨rfl, ih (fun hm => hq (List.mem_cons_of_mem _ hm)) hrest⟩
  | @junk j x w hj _ _ =>
    cases q with
    | nil => exact List.nil_prefix
    | cons d q =>
      obtain ⟨j', rfl⟩ : ∃ j', j = first :: j' := List.head?_eq_some_iff.1 (hjunk j hj)
      obtain ⟨rfl, -⟩ := List.cons_prefix_cons.1 hpre
      exact absurd (List.mem_cons_self ..) hq

/-- Where a text has a character, what is strewn before it can be told from what is strewn behind. -/
theorem of_append_cons {a b t : Text} {d : Char} (h : Strewn junk (a ++ d :: b) t) :
    ∃ v rest, t = v ++ d :: rest ∧ Strewn junk a v ∧ Strewn junk b rest := by
  generalize hx : a ++ d :: b = x at h
  induction h generalizing a with
  | nil => exact absurd hx (List.append_ne_nil_of_right_ne_nil a (List.cons_ne_nil d b))
  | @char c x w h ih =>
    cases a with
    | nil =>
      obtain ⟨rfl, rfl⟩ := List.cons.inj hx
      exact ⟨[], w, rfl, .nil, h⟩
    | cons c' a =>
      obtain ⟨rfl, htail⟩ := List.cons.inj hx
      obtain ⟨v, rest, rfl, hv, hrest⟩ := ih htail
      exact ⟨c' :: v, rest, rfl, .char c' hv, hrest⟩
  | @junk j x w hj h ih =>
    obtain ⟨v, rest, rfl, hv, hrest⟩ := ih hx
    exact ⟨j ++ v, rest, (List.append_assoc ..).symm, .junk hj hv, hrest⟩

end Strewn

namespace Scanner.Finds

variable {scan : Scanner} {form : Text → List (Option Text) → Prop} (h : scan.Finds form)
include h

theorem exists_strewn_of_prefix_strip {x : Text} {d : Char} {t : Text}
    (hpre : x ++ [d] <+: strip scan t) :
    ∃ v, Strewn (fun j => ∃ groups, form j groups) x v ∧ v ++ [d] <+: t := by
  induction t using h.induction generalizing x with
  | nil =>
    rw [strip, h.replace_nil] at hpre
    simp at hpre
  | plain c rest hnot ih =>
    rw [strip, h.replace_cons _ hnot] at hpre
    cases x with
    | nil =>
      obtain ⟨rfl, -⟩ := List.cons_prefix_cons.1 hpre
      exact ⟨[], .nil, rest, rfl⟩
    | cons c' x =>
      obtain ⟨rfl, hrest⟩ := List.cons_prefix_cons.1 hpre
      obtain ⟨v, hv, hv'⟩ := ih hrest
      exact ⟨c' :: v, .char c' hv, List.cons_prefix_cons.2 ⟨rfl, hv'⟩⟩
  | hit w groups rest hw ih =>
    rw [strip, h.replace_append_form _ hw] at hpre
    obtain ⟨v, hv, hv'⟩ := ih hpre
    refine ⟨w ++ v, .junk ⟨groups, hw⟩ hv, ?_⟩
    rw [List.append_assoc]
    exact (List.prefix_append_right_inj w).2 hv'

/-- **What is read after the hits were taken out** was there with hits strewn in between its first
and its last character, and was not of the form itself. -/
theorem exists_strewn_of_infix_strip {c d : Char} {x t : Text}
    (hin : c :: (x ++ [d]) <:+: strip scan t) :
    ∃ v, Strewn (fun j => ∃ groups, form j groups) x v ∧ (∀ groups, ¬ form (c :: (v ++ [d])) groups) ∧
      c :: (v ++ [d]) <:+: t := by
  induction t using h.induction with
  | nil =>
    rw [strip, h.replace_nil] at hin
    simp at hin
  | plain c' rest hnot ih =>
    rw [strip, h.replace_cons _ hnot] at hin
    rcases List.infix_cons_iff.1 hin with hpre | hin
    · obtain ⟨rfl, hrest⟩ := List.cons_prefix_cons.1 hpre
      obtain ⟨v, hv, hv'⟩ := h.exists_strewn_of_prefix_strip hrest
      have hpre' : c :: (v ++ [d]) <+: c :: rest := List.cons_prefix_cons.2 ⟨rfl, hv'⟩
      exact ⟨v, hv, fun groups hw => hnot ⟨_, groups, hw, hpre'⟩, hpre'.isInfix⟩
    · obtain ⟨v, hv, hnone, hv'⟩ := ih hin
      exact ⟨v, hv, hnone, List.infix_cons hv'⟩
  | hit w groups rest hw ih =>
    rw [strip, h.replace_append_form _ hw] at hin
    obtain ⟨v, hv, hnone, hv'⟩ := ih hin
    exact ⟨v, hv, hnone, hv'.trans (List.suffix_append w rest).isInfix⟩

/-- A text is what is left of it with the hits strewn in. -/
theorem strewn_strip (t : Text) : Strewn (fun j => ∃ groups, form j groups) (strip scan t) t := by
  induction t using h.induction with
  | nil =>
    rw [strip, h.replace_nil]
    exact .nil
  | plain c rest hnot ih =>
    rw [strip, h.replace_cons _ hnot]
    exact .char c ih
  | hit w groups rest hw ih =>
    rw [strip, h.replace_append_form _ hw]
    exact .junk ⟨groups, hw⟩ ih

/-- **What is strewn with hits is read after they were taken out,** if nothing of the form begins
with one of its characters. -/
theorem strip_strewn_append {x v : Text}
    (hv : Strewn (fun j => ∃ groups, form j groups) x v)
    (hx : ∀ c ∈ x, ∀ rest, ¬ Begins form (c :: rest)) (b : Text) :
    strip scan (v ++ b) = x ++ strip scan b := by
  induction hv with
  | nil => rfl
  | char c _ ih =>
    rw [List.cons_append, strip, h.replace_cons _ (hx c (List.mem_cons_self ..) _)]
    exact congrArg _ (ih fun d hd => hx d (List.mem_cons_of_mem _ hd))
  | junk hj _ ih =>
    obtain ⟨groups, hw⟩ := hj
    rw [List.append_assoc, strip, h.replace_append_form _ hw]
    exact ih hx

/-- **What is strewn with hits, between two characters that stay, is read after they were taken
out.** -/
theorem infix_strip_of_strewn {c d : Char} {x v t : Text}
    (hv : Strewn (fun j => ∃ groups, form j groups) x v)
    (hcut : ∀ w groups, form w groups → c ∉ w.tail)
    (hnot : ∀ rest, ¬ Begins form (c :: (v ++ d :: rest)))
    (hstay : ∀ e ∈ x ++ [d], ∀ rest, ¬ Begins form (e :: rest)) (hin : c :: (v ++ [d]) <:+: t) :
    c :: (x ++ [d]) <:+: strip scan t := by
  obtain ⟨a, b, rfl⟩ := hin
  have hlast := h.replace_cons (fun _ _ => [])
    (hstay d (List.mem_append_right _ (List.mem_singleton_self _)) b)
  have hbody := h.strip_strewn_append hv (fun e he => hstay e (List.mem_append_left _ he)) (d :: b)
  have hshape : a ++ c :: (v ++ [d]) ++ b = a ++ c :: (v ++ d :: b) := by
    simp only [List.append_assoc, List.cons_append, List.nil_append]
  refine ⟨strip scan a, strip scan b, ?_⟩
  simp only [strip] at hbody ⊢
  rw [hshape, h.replace_append_cons _ hcut, h.replace_cons _ (hnot b), hbody, hlast]
  simp only [List.append_assoc, List.cons_append, List.nil_append]

end Scanner.Finds
end Text
end TermStyle
