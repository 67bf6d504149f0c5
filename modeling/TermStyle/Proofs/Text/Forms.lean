/-
# Forms that are found wherever they stand

Sequences and markup tags have this in common: whether one begins at a place depends on what
follows, there is at most one, and it is not empty.  A scanner that finds exactly the texts of such
a form (`Scanner.Finds`) cuts a text without regard to what came before
(`Finds.pieces_append_form`, `Finds.pieces_cons`), so a proof about it can go over the text one
piece at a time (`Finds.induction`).

Where no text of the form lies across a place, the text can be cut there first (`Finds.pieces_append`).
A character that only ever begins the form is such a place.
-/

import TermStyle.Text.Scan

namespace TermStyle
namespace Text

/-- What a scanner finds at the beginning of a text, of whatever length. -/
def Scanner.first (scan : Scanner) (t : Text) : Option Hit := scan (fun _ => true) [] t

/-- The scanner finds exactly the texts of a form, each with its marked parts. -/
structure Scanner.Finds (scan : Scanner) (form : Text → List (Option Text) → Prop) : Prop where
  /-- It asks for nothing but what follows, and has one answer at most. -/
  ahead : ∀ welcome before rest,
    scan welcome before rest = (scan.first rest).filter fun h => welcome h.length
  /-- What it finds is of the form. -/
  sound : ∀ {t h}, scan.first t = some h → ∃ w rest, t = w ++ rest ∧ form w h.groups ∧ h.length = w.length
  /-- What is of the form is found. -/
  complete : ∀ {w groups} rest, form w groups → scan.first (w ++ rest) = some ⟨w.length, groups⟩
  /-- Nothing of the form is empty. -/
  ne_nil : ∀ {w groups}, form w groups → w ≠ []

/-- Whether a text of a form stands at the beginning. -/
def Begins (form : Text → List (Option Text) → Prop) (t : Text) : Prop :=
  ∃ w groups, form w groups ∧ w <+: t

namespace Scanner.Finds

variable {scan : Scanner} {form : Text → List (Option Text) → Prop} (h : scan.Finds form)
include h

/-- A text is of the form exactly if the scanner finds the whole of it. -/
theorem form_iff {w : Text} {groups : List (Option Text)} :
    form w groups ↔ scan.first w = some ⟨w.length, groups⟩ := by
  constructor
  · intro hw
    simpa only [List.append_nil] using h.complete [] hw
  · intro hf
    obtain ⟨v, rest, hv, hform, hlen⟩ := h.sound hf
    have hlen : w.length = v.length := hlen
    have hrest : rest = [] := by
      rw [hv, List.length_append] at hlen
      exact List.length_eq_zero_iff.1 (by omega)
    rw [hrest, List.append_nil] at hv
    exact hv ▸ hform

/-- **The whole of a text is found exactly if it is of the form.** -/
theorem matchWhole_eq_some_iff {w : Text} {groups : List (Option Text)} :
    matchWhole scan w = some groups ↔ form w groups := by
  rw [matchWhole, h.ahead, h.form_iff, Option.map_eq_some_iff]
  constructor
  · rintro ⟨hit, hhit, rfl⟩
    obtain ⟨hfirst, hlength⟩ := Option.filter_eq_some_iff.1 hhit
    rw [hfirst, ← eq_of_beq hlength]
  · intro hfirst
    exact ⟨_, Option.filter_eq_some_iff.2 ⟨hfirst, beq_self_eq_true _⟩, rfl⟩

theorem standing (before rest : Text) :
    scan.standing before rest = (none, scan.first rest) := by
  unfold Scanner.standing
  rw [h.ahead]
  cases hf : scan.first rest with
  | none => rfl
  | some hit =>
    obtain ⟨w, _, _, hw, hlen⟩ := h.sound hf
    obtain ⟨length, groups⟩ := hit
    cases length with
    | zero => exact absurd (List.length_eq_zero_iff.1 hlen.symm) (h.ne_nil hw)
    | succ n => rfl

/-- What came before a place makes no difference to the pieces from there on. -/
theorem piecesFrom_eq (before : Text) (skip : Nat) (t : Text) :
    piecesFrom scan before skip t = pieces scan (t.drop skip) := by
  induction t generalizing before skip with
  | nil => cases skip <;> simp only [pieces, piecesFrom, List.drop_nil, h.standing]
  | cons c rest ih =>
    cases skip with
    | zero =>
      rw [List.drop_zero, pieces]
      simp only [piecesFrom, h.standing, ih]
    | succ n => simpa only [piecesFrom, List.drop_succ_cons] using ih (c :: before) n

@[simp] theorem pieces_nil : pieces scan [] = [] := by
  simp only [pieces, piecesFrom, h.standing, emptyPiece]

/-- **A text of the form at the beginning is the first piece.** -/
theorem pieces_append_form {w : Text} {groups : List (Option Text)} (hw : form w groups)
    (rest : Text) : pieces scan (w ++ rest) = .hit w groups :: pieces scan rest := by
  obtain ⟨c, w, rfl⟩ := List.exists_cons_of_ne_nil (h.ne_nil hw)
  have hfirst := h.complete rest hw
  simp only [List.cons_append, List.length_cons] at hfirst
  rw [List.cons_append, pieces, piecesFrom, h.standing, hfirst]
  simp only [emptyPiece, h.piecesFrom_eq, List.take_left, List.drop_left, List.nil_append]

/-- **A character with which nothing of the form begins is a piece by itself.** -/
theorem pieces_cons {c : Char} {rest : Text} (hnot : ¬ Begins form (c :: rest)) :
    pieces scan (c :: rest) = .plain c :: pieces scan rest := by
  have hfirst : scan.first (c :: rest) = none := by
    cases hf : scan.first (c :: rest) with
    | none => rfl
    | some hit =>
      obtain ⟨w, after, ht, hw, -⟩ := h.sound hf
      exact absurd ⟨w, _, hw, after, ht.symm⟩ hnot
  rw [pieces, piecesFrom, h.standing, hfirst]
  simp only [emptyPiece, h.piecesFrom_eq, List.drop_zero, List.nil_append]

/-- **What holds of the empty text, and of a text if it holds behind its first piece, holds of every
text.** -/
theorem induction {motive : Text → Prop} (nil : motive [])
    (plain : ∀ c rest, ¬ Begins form (c :: rest) → motive rest → motive (c :: rest))
    (hit : ∀ w groups rest, form w groups → motive rest → motive (w ++ rest)) (t : Text) :
    motive t := by
  obtain ⟨n, hn⟩ : ∃ n, t.length ≤ n := ⟨_, Nat.le_refl _⟩
  induction n generalizing t with
  | zero => exact List.eq_nil_of_length_eq_zero (Nat.le_zero.1 hn) ▸ nil
  | succ n ih =>
    cases t with
    | nil => exact nil
    | cons c rest =>
      by_cases hb : Begins form (c :: rest)
      · obtain ⟨w, groups, hw, after, ht⟩ := hb
        rw [← ht] at hn ⊢
        have := List.length_pos_iff.2 (h.ne_nil hw)
        exact hit w groups after hw (ih after (by rw [List.length_append] at hn; omega))
      · exact plain c rest hb (ih rest (Nat.le_of_succ_le_succ hn))

/-- **A text can be cut where nothing of the form lies across.** -/
theorem pieces_append {a b : Text}
    (hcross : ∀ u v groups, u <:+ a → u ≠ [] → v ≠ [] → form (u ++ v) groups → ¬ v <+: b) :
    pieces scan (a ++ b) = pieces scan a ++ pieces scan b := by
  induction a using h.induction with
  | nil => simp only [List.nil_append, h.pieces_nil]
  | plain c rest hnot ih =>
    have hnot' : ¬ Begins form (c :: (rest ++ b)) := by
      rintro ⟨w, groups, hw, after, ht⟩
      rw [← List.cons_append, List.append_eq_append_iff] at ht
      rcases ht with ⟨v, hin, -⟩ | ⟨v, rfl, hb⟩
      · exact hnot ⟨w, groups, hw, v, hin.symm⟩
      · by_cases hnil : v = []
        · exact hnot ⟨c :: rest, groups, by simpa [hnil] using hw, List.prefix_rfl⟩
        · exact hcross (c :: rest) v groups List.suffix_rfl (List.cons_ne_nil _ _) hnil hw
            ⟨after, hb.symm⟩
    rw [List.cons_append, h.pieces_cons hnot', h.pieces_cons hnot, List.cons_append,
      ih fun u v groups hu => hcross u v groups (hu.trans (List.suffix_cons _ _))]
  | hit w groups rest hw ih =>
    rw [List.append_assoc, h.pieces_append_form hw, h.pieces_append_form hw, List.cons_append,
      ih fun u v groups hu => hcross u v groups (hu.trans (List.suffix_append _ _))]

/-- A text can be cut before a character that the form has nowhere but at its beginning. -/
theorem pieces_append_cons {c : Char} (hc : ∀ w groups, form w groups → c ∉ w.tail) (a b : Text) :
    pieces scan (a ++ c :: b) = pieces scan a ++ pieces scan (c :: b) := by
  refine h.pieces_append fun u v groups _ hu hv hw hpre => ?_
  obtain ⟨d, u, rfl⟩ := List.exists_cons_of_ne_nil hu
  obtain ⟨c', v, rfl⟩ := List.exists_cons_of_ne_nil hv
  obtain ⟨rfl, -⟩ := List.cons_prefix_cons.1 hpre
  exact hc _ groups hw (List.mem_append_right u (List.mem_cons_self ..))

variable (instead : Text → List (Option Text) → Text)

@[simp] theorem replace_nil : replace scan instead [] = [] := by
  simp only [replace, h.pieces_nil, List.flatMap_nil]

theorem replace_append_form {w : Text} {groups : List (Option Text)} (hw : form w groups)
    (rest : Text) :
    replace scan instead (w ++ rest) = instead w groups ++ replace scan instead rest := by
  simp only [replace, h.pieces_append_form hw, List.flatMap_cons, Piece.replaced]

theorem replace_cons {c : Char} {rest : Text} (hnot : ¬ Begins form (c :: rest)) :
    replace scan instead (c :: rest) = c :: replace scan instead rest := by
  simp only [replace, h.pieces_cons hnot, List.flatMap_cons, Piece.replaced, List.singleton_append]

/-- Only what takes the place of a text of the form matters. -/
theorem replace_congr {other : Text → List (Option Text) → Text}
    (hsame : ∀ w groups, form w groups → instead w groups = other w groups) (t : Text) :
    replace scan instead t = replace scan other t := by
  induction t using h.induction with
  | nil => rw [h.replace_nil, h.replace_nil]
  | plain c rest hnot ih => rw [h.replace_cons instead hnot, h.replace_cons other hnot, ih]
  | hit w groups rest hw ih =>
    rw [h.replace_append_form instead hw, h.replace_append_form other hw, hsame w groups hw, ih]

/-- Characters with which nothing of the form begins stay. -/
theorem replace_append_of_not_begins {w : Text} (hw : ∀ c ∈ w, ∀ rest, ¬ Begins form (c :: rest))
    (rest : Text) : replace scan instead (w ++ rest) = w ++ replace scan instead rest := by
  induction w with
  | nil => rfl
  | cons c w ih =>
    rw [List.cons_append, h.replace_cons instead (hw c (List.mem_cons_self ..) _),
      ih fun d hd => hw d (List.mem_cons_of_mem _ hd), List.cons_append]

theorem replace_append_cons {c : Char} (hc : ∀ w groups, form w groups → c ∉ w.tail) (a b : Text) :
    replace scan instead (a ++ c :: b) = replace scan instead a ++ replace scan instead (c :: b) := by
  simp only [replace, h.pieces_append_cons hc, List.flatMap_append]

end Scanner.Finds
end Text
end TermStyle
