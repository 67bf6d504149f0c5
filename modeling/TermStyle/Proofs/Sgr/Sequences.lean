/-
# Texts with sequences

A sequence (`IsSequence`) is found wherever it stands (`finds_scan`), and holds the escape character
at its beginning and nowhere else (`IsSequence.escape_not_mem_tail`).  So a text can be stripped in
parts, cut before any escape character, and where there is none nothing is stripped
(`strip_of_escape_not_mem`).  Characters that no sequence has, such as braces and angle brackets, do not
come in with sequences either (`not_mem_strewn`).

What an expression gives is no text at all or one sequence (`IsStyle`), so it strips away
(`strip_style_append`).
-/

import TermStyle.Proofs.Text.Delimited
import TermStyle.Proofs.Text.Strewn
import TermStyle.Sgr

namespace TermStyle
namespace Sgr

/-- Whether a text is a sequence, from the escape character to the letter `m`. -/
def IsSequence (w : Text) : Prop :=
  ∃ params, w = escape :: '[' :: (params ++ ['m']) ∧ ∀ c ∈ params, isParameterChar c = true

/-- Whether a sequence stands somewhere in a text. -/
def Occurs (t : Text) : Prop := ∃ w, IsSequence w ∧ w <:+: t

/-- Whether a text is what an expression can give: nothing, or a sequence. -/
def IsStyle (s : Text) : Prop := s = [] ∨ IsSequence s

theorem scan_eq : scan = Text.scanDelimited [escape, '['] isParameterChar 'm' fun _ => [] := by
  refine Text.unique_eq_scanDelimited (fun before body after hdrop => ?_) (fun before body hopen => ?_)
    fun before rest hother => ?_
  · simp [hdrop]
  · simp only [List.cons_append, List.nil_append, if_true]
    split
    · rename_i hdrop
      exact absurd (congrArg List.head? hdrop) hopen
    · rfl
  · split
    · rename_i e body
      refine if_neg ?_
      rintro rfl
      exact hother ⟨body, rfl⟩
    · rfl

/-- **Sequences are what the scanner finds.** -/
theorem finds_scan : scan.Finds fun w groups => IsSequence w ∧ groups = [] := by
  have hform : (fun w groups => IsSequence w ∧ groups = []) =
      Text.Delimited [escape, '['] isParameterChar 'm' fun _ => [] := by
    funext w groups
    simp only [IsSequence, Text.Delimited, List.cons_append, List.nil_append, eq_iff_iff]
    constructor
    · rintro ⟨⟨params, hw, hparams⟩, hgroups⟩
      exact ⟨params, hw, hparams, hgroups⟩
    · rintro ⟨params, hw, hparams, hgroups⟩
      exact ⟨⟨params, hw, hparams⟩, hgroups⟩
  rw [hform, scan_eq]
  exact Text.finds_scanDelimited (by decide) _ _

/-- Whether a text is a sequence is found out by scanning it. -/
instance (w : Text) : Decidable (IsSequence w) :=
  decidable_of_iff (scan.first w = some ⟨w.length, []⟩)
    (finds_scan.form_iff.symm.trans (and_iff_left rfl))

theorem IsSequence.ne_nil {w : Text} (hw : IsSequence w) : w ≠ [] := by
  obtain ⟨params, rfl, -⟩ := hw
  exact List.cons_ne_nil _ _

theorem IsSequence.head? {w : Text} (hw : IsSequence w) : w.head? = some escape := by
  obtain ⟨params, rfl, -⟩ := hw
  rfl

theorem IsSequence.escape_mem {w : Text} (hw : IsSequence w) : escape ∈ w := by
  obtain ⟨params, rfl, -⟩ := hw
  exact List.mem_cons_self ..

/-- **A sequence has the escape character at its beginning only.** -/
theorem IsSequence.escape_not_mem_tail {w : Text} (hw : IsSequence w) : escape ∉ w.tail := by
  obtain ⟨params, rfl, hparams⟩ := hw
  simp only [List.tail_cons, List.mem_cons, List.mem_append, List.not_mem_nil, or_false, not_or]
  refine ⟨by decide, fun hm => ?_, by decide⟩
  exact absurd (hparams _ hm) (by decide)

/-- Whether a character may stand in a sequence, at any place. -/
def isSequenceChar (c : Char) : Bool := c == escape || c == '[' || isParameterChar c || c == 'm'

/-- **Sequences consist of sequence characters.** -/
theorem IsSequence.forall_mem {w : Text} (hw : IsSequence w) : ∀ c ∈ w, isSequenceChar c = true := by
  obtain ⟨params, rfl, hparams⟩ := hw
  intro c hc
  simp only [List.mem_cons, List.mem_append, List.not_mem_nil, or_false] at hc
  rcases hc with rfl | rfl | hc | rfl
  · decide
  · decide
  · simp [isSequenceChar, hparams c hc]
  · decide

/-- All sequence characters. -/
def sequenceChars : List Char := escape :: '[' :: 'm' :: ':' :: ';' :: "0123456789".toList

theorem mem_sequenceChars {c : Char} (h : isSequenceChar c = true) : c ∈ sequenceChars := by
  have hdigit : c.isDigit = true → c ∈ sequenceChars := by
    intro hd
    obtain ⟨hlow, hhigh⟩ : 48 ≤ c.toNat ∧ c.toNat ≤ 57 := by
      rw [Char.isDigit, Bool.and_eq_true, decide_eq_true_eq, decide_eq_true_eq] at hd
      exact hd
    have hmem : ∀ n ∈ List.range' 48 10, Char.ofNat n ∈ sequenceChars := by decide
    rw [← Char.ofNat_toNat c]
    exact hmem _ (List.mem_range'_1.2 ⟨hlow, by omega⟩)
  simp only [isSequenceChar, isParameterChar, Bool.or_eq_true, beq_iff_eq] at h
  rcases h with ((rfl | rfl) | ((hd | rfl) | rfl)) | rfl
  · decide
  · decide
  · exact hdigit hd
  · decide
  · decide
  · decide

/-- Styles consist of sequence characters. -/
theorem IsStyle.mem_sequenceChars {s : Text} (hs : IsStyle s) : ∀ c ∈ s, c ∈ sequenceChars := by
  intro c hc
  rcases hs with rfl | hs
  · cases hc
  · exact Sgr.mem_sequenceChars (hs.forall_mem c hc)

/-- What is in no sequence does not come in with sequences that are strewn. -/
theorem not_mem_strewn {x v : Text} (h : Text.Strewn IsSequence x v) {c : Char}
    (hc : isSequenceChar c = false) (hx : c ∉ x) : c ∉ v := by
  intro hm
  rcases h.mem_of_mem hm with hm | ⟨j, hj, hm⟩
  · exact hx hm
  · exact Bool.false_ne_true (hc.symm.trans (hj.forall_mem c hm))

theorem escape_not_mem_tail {w : Text} {groups : List (Option Text)} :
    IsSequence w ∧ groups = [] → escape ∉ w.tail :=
  fun h => h.1.escape_not_mem_tail

/-- No sequence begins with another character than the escape character. -/
theorem not_begins {c : Char} (hc : c ≠ escape) (rest : Text) :
    ¬ Text.Begins (fun w groups => IsSequence w ∧ groups = []) (c :: rest) := by
  rintro ⟨w, groups, ⟨hw, -⟩, hpre⟩
  obtain ⟨params, rfl, -⟩ := hw
  exact hc (List.cons_prefix_cons.1 hpre).1.symm

@[simp] theorem strip_nil : strip [] = [] := finds_scan.replace_nil fun _ _ => []

theorem strip_sequence_append {w : Text} (hw : IsSequence w) (rest : Text) :
    strip (w ++ rest) = strip rest :=
  finds_scan.replace_append_form _ ⟨hw, rfl⟩ rest

theorem strip_style_append {s : Text} (hs : IsStyle s) (rest : Text) :
    strip (s ++ rest) = strip rest := by
  rcases hs with rfl | hs
  · rfl
  · exact strip_sequence_append hs rest

theorem strip_append_of_escape_not_mem {t : Text} (ht : escape ∉ t) (rest : Text) :
    strip (t ++ rest) = t ++ strip rest :=
  finds_scan.replace_append_of_not_begins (fun _ _ => []) (fun _ hc => not_begins fun h => ht (h ▸ hc)) rest

/-- **Nothing is stripped where there is no escape character.** -/
theorem strip_of_escape_not_mem {t : Text} (ht : escape ∉ t) : strip t = t := by
  simpa using strip_append_of_escape_not_mem ht []

theorem strip_append_escape (a b : Text) :
    strip (a ++ escape :: b) = strip a ++ strip (escape :: b) :=
  finds_scan.replace_append_cons _ (fun _ _ => escape_not_mem_tail) a b

theorem strip_append_style (a : Text) {s : Text} (hs : IsStyle s) : strip (a ++ s) = strip a := by
  rcases hs with rfl | hs
  · rw [List.append_nil]
  · have hnone := strip_style_append (.inr hs) []
    obtain ⟨rest, rfl⟩ := List.head?_eq_some_iff.1 hs.head?
    rw [strip_append_escape, ← List.append_nil (escape :: rest), hnone, strip_nil, List.append_nil]

/-- A style is nothing with a sequence strewn in, or without. -/
theorem IsStyle.strewn {s : Text} (hs : IsStyle s) : Text.Strewn IsSequence [] s := by
  rcases hs with rfl | hs
  · exact .nil
  · simpa using Text.Strewn.junk hs .nil

/-- **Sequences that were strewn into a text strip away again,** if it has no escape character. -/
theorem strip_strewn_append {x v : Text} (hv : Text.Strewn IsSequence x v) (hx : escape ∉ x)
    (rest : Text) : strip (v ++ rest) = x ++ strip rest :=
  finds_scan.strip_strewn_append (hv.imp fun _ hj => ⟨[], hj, rfl⟩)
    (fun _ hc => not_begins fun h => hx (h ▸ hc)) rest

theorem strip_strewn {x v : Text} (hv : Text.Strewn IsSequence x v) (hx : escape ∉ x) : strip v = x := by
  simpa using strip_strewn_append hv hx []

/-- Whether a text can be a parameter: it is not empty, and consists of parameter characters. -/
def IsParameter (p : Text) : Prop := p ≠ [] ∧ ∀ c ∈ p, isParameterChar c = true

theorem IsParameter.append {p q : Text} (hp : IsParameter p) (hq : ∀ c ∈ q, isParameterChar c = true) :
    IsParameter (p ++ q) :=
  ⟨List.append_ne_nil_of_left_ne_nil hp.1 q, fun c hc => (List.mem_append.1 hc).elim (hp.2 c) (hq c)⟩

/-- **Parameters with semicolons between them are one parameter.** -/
theorem isParameter_intercalate {first : Text} {more : List Text}
    (h : ∀ p ∈ first :: more, IsParameter p) : IsParameter (List.intercalate [';'] (first :: more)) := by
  induction more generalizing first with
  | nil =>
    rw [List.intercalate_singleton]
    exact h first (List.mem_singleton_self _)
  | cons second more ih =>
    have hlater : IsParameter (List.intercalate [';'] (second :: more)) :=
      ih fun p hp => h p (List.mem_cons_of_mem _ hp)
    have hfirst : IsParameter (first ++ [';']) :=
      (h first (List.mem_cons_self ..)).append (List.all_eq_true.1 (by decide))
    rw [List.intercalate_cons_cons]
    exact hfirst.append hlater.2

/-- **Parameters are written as a sequence with a parameter in it,** and no parameters as nothing. -/
theorem sequence_cases {params : List Text} (h : ∀ p ∈ params, IsParameter p) :
    sequence params = [] ∨ ∃ p, IsParameter p ∧ sequence params = escape :: '[' :: (p ++ ['m']) := by
  cases params with
  | nil => exact .inl rfl
  | cons first more => exact .inr ⟨_, isParameter_intercalate h, rfl⟩

end Sgr
end TermStyle
