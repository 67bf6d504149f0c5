/-
# Words and runs of blanks

A text is words with runs of blanks between them, and perhaps at its ends.  A run is maximal where a
word, or an end of the text, is on either side of it.

So what holds of words, and of a word with a run and more behind it, holds of every text
(`run_induction`).  `words` lists the words in between (`words_append_run`).
-/

import TermStyle.Text.Basic

namespace TermStyle
namespace Text

/-- A text without blanks; it may be empty. -/
def Solid (w : Text) : Prop := ∀ c ∈ w, isBlank c = false

/-- Blanks and nothing else, at least one of them. -/
structure IsRun (r : Text) : Prop where
  /-- There is a blank. -/
  ne_nil : r ≠ []
  /-- There is nothing but blanks. -/
  blank : ∀ c ∈ r, isBlank c = true

/-- Whether a text does not begin with a blank. -/
def StartsSolid (t : Text) : Prop := ∀ c, t.head? = some c → isBlank c = false

/-- Whether a text does not end with a blank. -/
def EndsSolid (t : Text) : Prop := ∀ c, t.getLast? = some c → isBlank c = false

/-- A blank is no letter and no digit. -/
theorem isAlphanum_of_isBlank {c : Char} (h : isBlank c = true) : c.isAlphanum = false := by
  rw [Bool.eq_false_iff]
  intro halnum
  simp only [isBlank, Bool.or_eq_true, Bool.and_eq_true, decide_eq_true_eq, beq_iff_eq] at h
  delta Char.isAlphanum Char.isAlpha Char.isUpper Char.isLower Char.isDigit at halnum
  simp [UInt32.le_iff_toNat_le] at halnum
  omega

theorem Solid.nil : Solid [] := fun _ hc => absurd hc List.not_mem_nil

theorem Solid.append {v w : Text} (hv : Solid v) (hw : Solid w) : Solid (v ++ w) :=
  fun c hc => (List.mem_append.1 hc).elim (hv c) (hw c)

theorem Solid.left {v w : Text} (h : Solid (v ++ w)) : Solid v := fun c hc => h c (List.mem_append_left _ hc)

theorem Solid.right {v w : Text} (h : Solid (v ++ w)) : Solid w := fun c hc => h c (List.mem_append_right _ hc)

theorem Solid.startsSolid {w : Text} (h : Solid w) : StartsSolid w := fun c hc => h c (List.mem_of_head? hc)

theorem Solid.endsSolid {w : Text} (h : Solid w) : EndsSolid w := fun c hc => h c (List.mem_of_getLast? hc)

theorem IsRun.exists_head {r : Text} (hr : IsRun r) : ∃ c r', r = c :: r' ∧ isBlank c = true := by
  obtain ⟨c, r', rfl⟩ := List.exists_cons_of_ne_nil hr.ne_nil
  exact ⟨c, r', rfl, hr.blank c (List.mem_cons_self ..)⟩

/-- What begins with a run does not begin with a letter or a digit. -/
theorem IsRun.any_head? {r : Text} (hr : IsRun r) (y : Text) : (r ++ y).head?.any Char.isAlphanum = false := by
  obtain ⟨c, r', rfl, hc⟩ := hr.exists_head
  exact isAlphanum_of_isBlank hc

theorem IsRun.exists_last {r : Text} (hr : IsRun r) : ∃ c, r.getLast? = some c ∧ isBlank c = true := by
  obtain ⟨c, hc⟩ := Option.ne_none_iff_exists'.1 fun hnone => hr.ne_nil (List.getLast?_eq_none_iff.1 hnone)
  exact ⟨c, hc, hr.blank c (List.mem_of_getLast? hc)⟩

/-- What ends with a run does not end with a letter or a digit. -/
theorem IsRun.any_getLast? {r : Text} (hr : IsRun r) (before : Option Char) :
    (r.getLast?.or before).any Char.isAlphanum = false := by
  obtain ⟨c, hc, hblank⟩ := hr.exists_last
  rw [hc]
  exact isAlphanum_of_isBlank hblank

theorem IsRun.any_getLast?_append {r : Text} (hr : IsRun r) (x : Text) :
    (x ++ r).getLast?.any Char.isAlphanum = false := by
  rw [List.getLast?_append]
  exact hr.any_getLast? _

/-- What ends with a run ends with a blank. -/
theorem IsRun.not_endsSolid {r : Text} (hr : IsRun r) (x : Text) : ¬ EndsSolid (x ++ r) := by
  obtain ⟨c, hc, hblank⟩ := hr.exists_last
  intro hends
  have hsolid := hends c (by rw [List.getLast?_append, hc]; rfl)
  exact Bool.false_ne_true (hsolid.symm.trans hblank)

/-- What begins with a run begins with a blank. -/
theorem IsRun.not_startsSolid {r : Text} (hr : IsRun r) (y : Text) : ¬ StartsSolid (r ++ y) := by
  obtain ⟨c, r', rfl, hc⟩ := hr.exists_head
  intro hstarts
  exact Bool.false_ne_true ((hstarts c rfl).symm.trans hc)

/-- A text that does not end with a blank has something behind each run, which does not end with a blank. -/
theorem EndsSolid.of_run {w r y : Text} (h : EndsSolid (w ++ (r ++ y))) (hr : IsRun r) :
    y ≠ [] ∧ EndsSolid y := by
  constructor
  · rintro rfl
    rw [List.append_nil] at h
    exact hr.not_endsSolid w h
  · intro c hc
    exact h c (by rw [← List.append_assoc, List.getLast?_append, hc]; rfl)

/-- A text that does not end with a blank can have more before it, if there is something in it. -/
theorem EndsSolid.append {y : Text} (hy : EndsSolid y) (hne : y ≠ []) (x : Text) : EndsSolid (x ++ y) := by
  obtain ⟨c, hc⟩ := Option.ne_none_iff_exists'.1 fun hnone => hne (List.getLast?_eq_none_iff.1 hnone)
  intro d hd
  rw [List.getLast?_append, hc] at hd
  exact hy d (hc.trans hd)

/-- A text that does not begin with a blank can have more behind it, if there is something in it. -/
theorem StartsSolid.append {y : Text} (hy : StartsSolid y) (hne : y ≠ []) (z : Text) : StartsSolid (y ++ z) := by
  obtain ⟨c, y', rfl⟩ := List.exists_cons_of_ne_nil hne
  exact hy

/-- The blanks at the beginning of a text, if a text follows that does not begin with one. -/
theorem takeWhile_isBlank {r y : Text} (hr : ∀ c ∈ r, isBlank c = true) (hy : StartsSolid y) :
    (r ++ y).takeWhile isBlank = r := by
  rw [List.takeWhile_append_of_pos hr]
  cases y with
  | nil => rw [List.takeWhile_nil, List.append_nil]
  | cons c y => rw [List.takeWhile_cons_of_neg (by rw [hy c rfl]; exact Bool.false_ne_true), List.append_nil]

/-- The blanks at the beginning of a text can be cut off. -/
theorem exists_lead (t : Text) : ∃ r y, t = r ++ y ∧ (∀ c ∈ r, isBlank c = true) ∧ StartsSolid y := by
  refine ⟨t.takeWhile isBlank, t.dropWhile isBlank, List.takeWhile_append_dropWhile.symm,
    List.all_eq_true.1 List.all_takeWhile, fun c hc => ?_⟩
  have hstop := List.head?_dropWhile_not isBlank t
  rw [hc] at hstop
  exact hstop

/-- The blanks at the end of a text can be cut off. -/
theorem exists_trail (t : Text) : ∃ x r, t = x ++ r ∧ EndsSolid x ∧ ∀ c ∈ r, isBlank c = true := by
  induction t with
  | nil => exact ⟨[], [], rfl, Solid.nil.endsSolid, fun _ hc => absurd hc List.not_mem_nil⟩
  | cons c t ih =>
    obtain ⟨x, r, rfl, hx, hr⟩ := ih
    cases x with
    | nil =>
      cases hc : isBlank c with
      | true => exact ⟨[], c :: r, rfl, hx, List.forall_mem_cons.2 ⟨hc, hr⟩⟩
      | false =>
        have hone : Solid [c] := List.forall_mem_singleton.2 hc
        exact ⟨[c], r, rfl, hone.endsSolid, hr⟩
    | cons d x =>
      refine ⟨c :: d :: x, r, rfl, fun a ha => hx a ?_, hr⟩
      rw [List.getLast?_cons_cons] at ha
      exact ha

/-- **A text is a word, or begins with a word and a run.** -/
theorem exists_run (t : Text) :
    Solid t ∨ ∃ w r y, t = w ++ (r ++ y) ∧ Solid w ∧ IsRun r ∧ StartsSolid y := by
  induction t with
  | nil => exact .inl .nil
  | cons c t ih =>
    cases hc : isBlank c with
    | false =>
      have hcons : ∀ {w : Text}, Solid w → Solid (c :: w) := fun hw => List.forall_mem_cons.2 ⟨hc, hw⟩
      rcases ih with hsolid | ⟨w, r, y, rfl, hw, hr, hy⟩
      · exact .inl (hcons hsolid)
      · exact .inr ⟨c :: w, r, y, rfl, hcons hw, hr, hy⟩
    | true =>
      -- The run goes on as far as the text begins with blanks.
      obtain ⟨r, y, rfl, hr, hy⟩ := exists_lead t
      exact .inr ⟨[], c :: r, y, rfl, .nil, ⟨List.cons_ne_nil c r, List.forall_mem_cons.2 ⟨hc, hr⟩⟩, hy⟩

/-- **What holds of words, and of a word with a run behind it if it holds of what follows the run, holds of
every text.** -/
theorem run_induction {motive : Text → Prop} (word : ∀ w, Solid w → motive w)
    (run : ∀ w r y, Solid w → IsRun r → StartsSolid y → motive y → motive (w ++ (r ++ y))) (t : Text) :
    motive t := by
  obtain ⟨n, hn⟩ : ∃ n, t.length ≤ n := ⟨_, Nat.le_refl _⟩
  induction n generalizing t with
  | zero => exact word t (List.eq_nil_of_length_eq_zero (Nat.le_zero.1 hn) ▸ Solid.nil)
  | succ n ih =>
    rcases exists_run t with hsolid | ⟨w, r, y, rfl, hw, hr, hy⟩
    · exact word t hsolid
    · have hpos := List.length_pos_iff.2 hr.ne_nil
      rw [List.length_append, List.length_append] at hn
      exact run w r y hw hr hy (ih y (by omega))

/-- Blanks in front make no difference to the words. -/
theorem words_blanks_append {u : Text} (hu : ∀ c ∈ u, isBlank c = true) (t : Text) : words (u ++ t) = words t := by
  induction u with
  | nil => rfl
  | cons c u ih =>
    obtain ⟨hc, hu⟩ := List.forall_mem_cons.1 hu
    rw [List.cons_append, words_blank hc, ih hu]

/-- **A run separates words.** -/
theorem words_append_run {r : Text} (hr : IsRun r) (x y : Text) : words (x ++ (r ++ y)) = words x ++ words y := by
  obtain ⟨c, r', rfl, hc⟩ := hr.exists_head
  rw [List.cons_append, words_append_blank hc, words_blanks_append (List.forall_mem_cons.1 hr.blank).2]

/-- Blanks behind make no difference to the words. -/
theorem words_append_blanks {v : Text} (hv : ∀ c ∈ v, isBlank c = true) (t : Text) : words (t ++ v) = words t := by
  by_cases hnil : v = []
  · rw [hnil, List.append_nil]
  · have hwords := words_append_run ⟨hnil, hv⟩ t []
    rw [List.append_nil, words_nil, List.append_nil] at hwords
    exact hwords

/-- A character in front of a word is put to it. -/
theorem words_cons_of_startsInWord {c : Char} (hc : isBlank c = false) {t : Text} (ht : startsInWord t = true) :
    ∃ w ws, words t = w :: ws ∧ words (c :: t) = (c :: w) :: ws := by
  obtain ⟨w, ws, hwords⟩ := List.exists_cons_of_ne_nil (words_ne_nil ht)
  refine ⟨w, ws, hwords, ?_⟩
  rw [words, hwords, hc, ht]
  rfl

/-- A character behind a word is put to it. -/
theorem words_concat_of_endsSolid {c : Char} (hc : isBlank c = false) {t : Text} (ht : EndsSolid t) (hne : t ≠ []) :
    ∃ ws w, words t = ws ++ [w] ∧ words (t ++ [c]) = ws ++ [w ++ [c]] := by
  induction t using run_induction with
  | word w hw =>
    have hmore : Solid (w ++ [c]) := hw.append (List.forall_mem_singleton.2 hc)
    exact ⟨[], w, words_of_word hne hw, words_of_word (List.append_ne_nil_of_left_ne_nil hne [c]) hmore⟩
  | run w r y _ hr _ ih =>
    obtain ⟨hy, hends⟩ := ht.of_run hr
    obtain ⟨ws, v, hwords, hmore⟩ := ih hends hy
    refine ⟨words w ++ ws, v, ?_, ?_⟩
    · rw [words_append_run hr, hwords, List.append_assoc]
    · rw [List.append_assoc, List.append_assoc, words_append_run hr, hmore, List.append_assoc]

/-- What a text begins with, up to a blank, is in one of its words. -/
theorem exists_mem_words_of_prefix {s : Text} (hs : Solid s) (hne : s ≠ []) (z : Text) :
    ∃ w ∈ words (s ++ z), s <+: w := by
  rcases exists_run z with hz | ⟨v, r, y, rfl, hv, hr, -⟩
  · refine ⟨s ++ z, ?_, List.prefix_append s z⟩
    rw [words_of_word (List.append_ne_nil_of_left_ne_nil hne z) (hs.append hz)]
    exact List.mem_singleton.2 rfl
  · refine ⟨s ++ v, ?_, List.prefix_append s v⟩
    rw [← List.append_assoc, words_append_run hr,
      words_of_word (List.append_ne_nil_of_left_ne_nil hne v) (hs.append hv)]
    exact List.mem_cons_self ..

/-- What a text ends with, from a blank on, is in one of its words. -/
theorem exists_mem_words_of_suffix {s : Text} (hs : Solid s) (hne : s ≠ []) (z : Text) :
    ∃ w ∈ words (z ++ s), s <:+ w := by
  induction z using run_induction with
  | word z hz =>
    refine ⟨z ++ s, ?_, List.suffix_append z s⟩
    rw [words_of_word (List.append_ne_nil_of_right_ne_nil z hne) (hz.append hs)]
    exact List.mem_singleton.2 rfl
  | run v r y _ hr _ ih =>
    obtain ⟨w, hw, hsuffix⟩ := ih
    refine ⟨w, ?_, hsuffix⟩
    rw [List.append_assoc, List.append_assoc, words_append_run hr]
    exact List.mem_append_right _ hw

end Text
end TermStyle
