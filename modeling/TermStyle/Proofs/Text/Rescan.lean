/-
# What a second scan finds

After the hits of a form have given way to other texts, what is left can be scanned again.  A hit of the
second scan was not there before: its characters stood apart, and what stood between them has gone.

`exists_of_infix_replace` says what stood there.  The pieces between two characters are the pieces of
their own text (`pieces_flatMap_source`), so what is read between the two is what the replacement makes of
that text alone.

A second scan finds nothing exactly if nothing of the form is left (`Holds`).  Then it changes nothing
(`replace_of_not_holds`), and otherwise it takes out a character that does not come back
(`replace_eq_self_iff`).
-/

import TermStyle.Proofs.Text.Forms

namespace TermStyle
namespace Text

/-- Whether a text of a form stands somewhere in a text. -/
def Holds (form : Text → List (Option Text) → Prop) (t : Text) : Prop :=
  ∃ w groups, form w groups ∧ w <:+: t

/-- What begins with a text of the form still does so with more behind it. -/
theorem Begins.append {form : Text → List (Option Text) → Prop} {t : Text} (h : Begins form t)
    (rest : Text) : Begins form (t ++ rest) := by
  obtain ⟨w, groups, hw, hpre⟩ := h
  exact ⟨w, groups, hw, hpre.trans (List.prefix_append t rest)⟩

theorem holds_cons {form : Text → List (Option Text) → Prop} {c : Char} {t : Text} :
    Holds form (c :: t) ↔ Begins form (c :: t) ∨ Holds form t := by
  constructor
  · rintro ⟨w, groups, hw, hin⟩
    rcases List.infix_cons_iff.1 hin with hpre | hin
    · exact .inl ⟨w, groups, hw, hpre⟩
    · exact .inr ⟨w, groups, hw, hin⟩
  · rintro (⟨w, groups, hw, hpre⟩ | ⟨w, groups, hw, hin⟩)
    · exact ⟨w, groups, hw, hpre.isInfix⟩
    · exact ⟨w, groups, hw, List.infix_cons hin⟩

/-- To take out hits leaves the other characters, in their order. -/
theorem strip_sublist (scan : Scanner) (t : Text) : (strip scan t).Sublist t := by
  have hparts : ∀ pieces : List Piece,
      (pieces.flatMap (Piece.replaced fun _ _ => [])).Sublist (pieces.flatMap Piece.source) := by
    intro pieces
    induction pieces with
    | nil => exact List.Sublist.refl []
    | cons p more ih =>
      rw [List.flatMap_cons, List.flatMap_cons]
      cases p with
      | plain c => exact ih.cons_cons c
      | hit w groups => exact ih.trans (List.sublist_append_right w _)
  have htext := hparts (pieces scan t)
  rwa [pieces_source] at htext

/-- **A character that no hit brings in is a piece by itself** in what was replaced. -/
theorem exists_plain_of_replaced {instead : Text → List (Option Text) → Text} {c : Char} {a b : Text}
    {pieces : List Piece} (hc : ∀ w groups, .hit w groups ∈ pieces → c ∉ instead w groups)
    (h : pieces.flatMap (Piece.replaced instead) = a ++ c :: b) :
    ∃ before after, pieces = before ++ .plain c :: after ∧
      before.flatMap (Piece.replaced instead) = a ∧ after.flatMap (Piece.replaced instead) = b := by
  induction pieces generalizing a with
  | nil => exact absurd h.symm (List.append_ne_nil_of_right_ne_nil a (List.cons_ne_nil c b))
  | cons p more ih =>
    have hmore := fun w groups hmem => hc w groups (List.mem_cons_of_mem p hmem)
    rw [List.flatMap_cons] at h
    -- What the first piece gives ends before the character, or is the character.
    have hsplit : ∀ s, p.replaced instead = s → c ∉ s →
        ∃ before after, p :: more = before ++ .plain c :: after ∧
          before.flatMap (Piece.replaced instead) = a ∧ after.flatMap (Piece.replaced instead) = b := by
      rintro s rfl hs
      rcases List.append_eq_append_iff.1 h with ⟨a', rfl, hrest⟩ | ⟨s', hs', hrest⟩
      · obtain ⟨before, after, rfl, rfl, hafter⟩ := ih hmore hrest
        exact ⟨p :: before, after, rfl, List.flatMap_cons, hafter⟩
      · cases s' with
        | nil =>
          obtain ⟨before, after, rfl, hbefore, hafter⟩ := ih (a := []) hmore hrest.symm
          refine ⟨p :: before, after, rfl, ?_, hafter⟩
          rw [List.flatMap_cons, hbefore, hs', List.append_nil, List.append_nil]
        | cons d s' =>
          obtain ⟨rfl, -⟩ := List.cons.inj hrest
          exact absurd (hs' ▸ List.mem_append_right a (List.mem_cons_self ..)) hs
    cases p with
    | hit w groups => exact hsplit _ rfl (hc w groups (List.mem_cons_self ..))
    | plain d =>
      by_cases hcd : c = d
      · subst hcd
        cases a with
        | nil => exact ⟨[], more, rfl, rfl, (List.cons.inj h).2⟩
        | cons d a =>
          obtain ⟨rfl, hrest⟩ := List.cons.inj h
          obtain ⟨before, after, rfl, rfl, hafter⟩ := ih hmore hrest
          exact ⟨.plain c :: before, after, rfl, rfl, hafter⟩
      · exact hsplit _ rfl fun hmem => hcd (List.mem_singleton.1 hmem)

namespace Scanner.Finds

variable {scan : Scanner} {form : Text → List (Option Text) → Prop} (h : scan.Finds form)
include h

/-- Where there is a hit, something of the form stands. -/
theorem holds_of_mem_pieces {t w : Text} {groups : List (Option Text)}
    (hmem : .hit w groups ∈ pieces scan t) : Holds form t := by
  induction t using h.induction with
  | nil =>
    rw [h.pieces_nil] at hmem
    cases hmem
  | plain c rest hnot ih =>
    rw [h.pieces_cons hnot] at hmem
    exact holds_cons.2 (.inr (ih (List.mem_of_ne_of_mem (by simp) hmem)))
  | hit v groups' rest hv ih => exact ⟨v, groups', hv, (List.prefix_append v rest).isInfix⟩

/-- The last pieces of a text are the pieces of what they were cut from. -/
theorem pieces_flatMap_source_of_suffix {t : Text} {before after : List Piece}
    (ht : pieces scan t = before ++ after) : pieces scan (after.flatMap Piece.source) = after := by
  induction t using h.induction generalizing before with
  | nil =>
    rw [h.pieces_nil] at ht
    obtain ⟨-, rfl⟩ := List.append_eq_nil_iff.1 ht.symm
    exact h.pieces_nil
  | plain c rest hnot ih =>
    cases before with
    | nil => rw [← List.nil_append after, ← ht, pieces_source]
    | cons p before =>
      rw [h.pieces_cons hnot] at ht
      exact ih (List.cons.inj ht).2
  | hit w groups rest hw ih =>
    cases before with
    | nil => rw [← List.nil_append after, ← ht, pieces_source]
    | cons p before =>
      rw [h.pieces_append_form hw] at ht
      exact ih (List.cons.inj ht).2

/-- The first pieces of a text are the pieces of what they were cut from. -/
theorem pieces_flatMap_source_of_prefix {t : Text} {before after : List Piece}
    (ht : pieces scan t = before ++ after) : pieces scan (before.flatMap Piece.source) = before := by
  induction t using h.induction generalizing before with
  | nil =>
    rw [h.pieces_nil] at ht
    obtain ⟨rfl, -⟩ := List.append_eq_nil_iff.1 ht.symm
    exact h.pieces_nil
  | plain c rest hnot ih =>
    cases before with
    | nil => exact h.pieces_nil
    | cons p before =>
      rw [h.pieces_cons hnot] at ht
      obtain ⟨rfl, hrest⟩ := List.cons.inj ht
      -- What begins here without the rest of the text would begin with it.
      have hsource : rest = before.flatMap Piece.source ++ after.flatMap Piece.source := by
        rw [← List.flatMap_append, ← pieces_source scan rest, hrest, List.append_eq]
      have hnot' : ¬ Begins form (c :: before.flatMap Piece.source) := fun hb => by
        refine hnot ?_
        rw [hsource]
        exact hb.append _
      change pieces scan (c :: before.flatMap Piece.source) = _
      rw [h.pieces_cons hnot', ih hrest]
  | hit w groups rest hw ih =>
    cases before with
    | nil => exact h.pieces_nil
    | cons p before =>
      rw [h.pieces_append_form hw] at ht
      obtain ⟨rfl, hrest⟩ := List.cons.inj ht
      change pieces scan (w ++ before.flatMap Piece.source) = _
      rw [h.pieces_append_form hw, ih hrest]

/-- **Consecutive pieces of a text are the pieces of what they were cut from.** -/
theorem pieces_flatMap_source {t : Text} {before inside after : List Piece}
    (ht : pieces scan t = before ++ (inside ++ after)) :
    pieces scan (inside.flatMap Piece.source) = inside :=
  h.pieces_flatMap_source_of_prefix (h.pieces_flatMap_source_of_suffix ht)

variable (instead : Text → List (Option Text) → Text)

/-- **What is read between two characters after a replacement** was, with them, in the text before it: it
is what the replacement makes of a part of the text.  The two characters and this part were not of the
form. -/
theorem exists_of_infix_replace {c d : Char} {x t : Text}
    (hc : ∀ w groups, .hit w groups ∈ pieces scan t → c ∉ instead w groups)
    (hd : ∀ w groups, .hit w groups ∈ pieces scan t → d ∉ instead w groups)
    (hin : c :: (x ++ [d]) <:+: replace scan instead t) :
    ∃ v, c :: (v ++ [d]) <:+: t ∧ replace scan instead v = x ∧ pieces scan v <:+: pieces scan t ∧
      ∀ groups, ¬ form (c :: (v ++ [d])) groups := by
  obtain ⟨a, b, hab⟩ := hin
  have hshape : (pieces scan t).flatMap (Piece.replaced instead) = a ++ c :: (x ++ d :: b) := by
    rw [← replace, ← hab]
    simp only [List.append_assoc, List.cons_append, List.nil_append]
  obtain ⟨before, later, ht, -, hlater⟩ := exists_plain_of_replaced hc hshape
  have hd' : ∀ w groups, .hit w groups ∈ later → d ∉ instead w groups := fun w groups hmem =>
    hd w groups (ht ▸ List.mem_append_right _ (List.mem_cons_of_mem _ hmem))
  obtain ⟨inside, after, rfl, hinside, -⟩ := exists_plain_of_replaced hd' hlater
  have hthree : pieces scan t = (before ++ [.plain c]) ++ (inside ++ .plain d :: after) := by simp [ht]
  have hpieces := h.pieces_flatMap_source hthree
  have hsource : before.flatMap Piece.source ++
      (c :: (inside.flatMap Piece.source ++ d :: after.flatMap Piece.source)) = t := by
    rw [← pieces_source scan t, ht]
    simp [Piece.source]
  refine ⟨inside.flatMap Piece.source, ⟨before.flatMap Piece.source, after.flatMap Piece.source, ?_⟩, ?_, ?_,
    fun groups hw => ?_⟩
  · rw [← hsource]
    simp
  · rw [replace, hpieces, hinside]
  · exact hpieces.symm ▸ ⟨before ++ [.plain c], .plain d :: after, by rw [hthree, List.append_assoc]⟩
  · -- A text of the form would be a piece, and the character is one.
    have hfrom := h.pieces_flatMap_source_of_suffix ht
    have hshape : (Piece.plain c :: (inside ++ .plain d :: after)).flatMap Piece.source =
        (c :: (inside.flatMap Piece.source ++ [d])) ++ after.flatMap Piece.source := by
      simp [Piece.source]
    rw [hshape, h.pieces_append_form hw] at hfrom
    cases hfrom

/-- **Where nothing of the form stands, a replacement changes nothing.** -/
theorem replace_of_not_holds {t : Text} (ht : ¬ Holds form t) : replace scan instead t = t := by
  induction t using h.induction with
  | nil => exact h.replace_nil instead
  | plain c rest hnot ih => rw [h.replace_cons instead hnot, ih fun hr => ht (holds_cons.2 (.inr hr))]
  | hit w groups rest hw ih => exact absurd ⟨w, groups, hw, (List.prefix_append w rest).isInfix⟩ ht

/-- A character that comes with every text of the form and with no replacement gets no more, and fewer
where a text of the form stands. -/
theorem count_replace {c : Char} (hform : ∀ w groups, form w groups → c ∈ w)
    (hinstead : ∀ w groups, form w groups → c ∉ instead w groups) (t : Text) :
    (replace scan instead t).count c ≤ t.count c ∧
      (Holds form t → (replace scan instead t).count c < t.count c) := by
  induction t using h.induction with
  | nil =>
    rw [h.replace_nil]
    refine ⟨Nat.le_refl _, ?_⟩
    rintro ⟨w, groups, hw, hin⟩
    exact absurd (List.infix_nil.1 hin) (h.ne_nil hw)
  | plain d rest hnot ih =>
    rw [h.replace_cons instead hnot, holds_cons, List.count_cons, List.count_cons]
    refine ⟨Nat.add_le_add_right ih.1 _, fun hh => Nat.add_lt_add_right (ih.2 ?_) _⟩
    exact hh.resolve_left hnot
  | hit w groups rest hw ih =>
    have hmore := List.count_pos_iff.2 (hform w groups hw)
    have hnone := List.count_eq_zero_of_not_mem (hinstead w groups hw)
    rw [h.replace_append_form instead hw, List.count_append, List.count_append, hnone]
    have hfew := ih.1
    exact ⟨by omega, fun _ => by omega⟩

/-- **A second scan finds nothing exactly if it changes nothing,** where each hit takes a character out
that does not come back. -/
theorem replace_eq_self_iff {c : Char} (hform : ∀ w groups, form w groups → c ∈ w)
    (hinstead : ∀ w groups, form w groups → c ∉ instead w groups) {t : Text} :
    replace scan instead t = t ↔ ¬ Holds form t := by
  refine ⟨fun hsame hh => ?_, h.replace_of_not_holds instead⟩
  have hlt := (h.count_replace instead hform hinstead t).2 hh
  rw [hsame] at hlt
  exact Nat.lt_irrefl _ hlt

end Scanner.Finds
end Text
end TermStyle
