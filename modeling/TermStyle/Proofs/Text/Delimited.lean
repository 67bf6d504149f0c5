/-
# Delimited forms

Sequences, markup tags and standard inline tags have one shape: an opening, any number of characters of
one kind, and a closing character of another kind (`Delimited`).

| form | opening | between | closing |
| --- | --- | --- | --- |
| sequence | escape and `[` | digits, colons, semicolons | `m` |
| markup tag | `<` | all but `<` and `>` | `>` |
| inline tag | `${` | all but braces | `}` |

`scanDelimited` finds exactly the texts of such a form (`finds_scanDelimited`), and so does each
scanner of the library that is a case of it (`unique_eq_scanDelimited`).

Where only some hits of a form count, those with the right marked parts can be chosen
(`Scanner.choosing`).  It makes no difference to a replacement whether the others are found and put
back, or not found at all (`Finds.replace_choosing`).
-/

import TermStyle.Proofs.Text.Forms

namespace TermStyle
namespace Text

/-- Whether a text is an opening, characters of one kind and a closing character, with the parts
that are marked of what stands between. -/
def Delimited (opening : Text) (inner : Char → Bool) (closing : Char)
    (mark : Text → List (Option Text)) (w : Text) (groups : List (Option Text)) : Prop :=
  ∃ body, w = opening ++ (body ++ [closing]) ∧ (∀ c ∈ body, inner c = true) ∧ groups = mark body

/-- Finds a delimited form. -/
def scanDelimited (opening : Text) (inner : Char → Bool) (closing : Char)
    (mark : Text → List (Option Text)) : Scanner := .unique fun _ rest =>
  let body := (rest.drop opening.length).takeWhile inner
  if opening <+: rest ∧ ((rest.drop opening.length).dropWhile inner).head? = some closing then
    some ⟨body.length + 1 + opening.length, mark body⟩
  else none

theorem first_unique (find : Option Char → Text → Option Hit) (t : Text) :
    (Scanner.unique find).first t = find none t := by
  rw [Scanner.first, Scanner.unique, List.head?_nil]
  cases find none t <;> rfl

/-- **What finds a delimited form** wants the opening in front, and the closing character behind what
may stand between the two. -/
theorem unique_eq_scanDelimited {opening : Text} {inner : Char → Bool} {closing : Char}
    {mark : Text → List (Option Text)} {find : Option Char → Text → Option Hit}
    (hclosed : ∀ before body after, body.dropWhile inner = closing :: after → find before (opening ++ body) =
      some ⟨(body.takeWhile inner).length + 1 + opening.length, mark (body.takeWhile inner)⟩)
    (hopen : ∀ before body, (body.dropWhile inner).head? ≠ some closing → find before (opening ++ body) = none)
    (hother : ∀ before rest, ¬ opening <+: rest → find before rest = none) :
    Scanner.unique find = scanDelimited opening inner closing mark := by
  funext welcome before rest
  unfold scanDelimited Scanner.unique
  congr 1
  dsimp only
  by_cases hpre : opening <+: rest
  · obtain ⟨body, rfl⟩ := hpre
    rw [List.drop_left]
    by_cases hhead : (body.dropWhile inner).head? = some closing
    · obtain ⟨after, hafter⟩ := List.head?_eq_some_iff.1 hhead
      rw [hclosed before.head? body after hafter, if_pos ⟨List.prefix_append .., hhead⟩]
    · rw [hopen before.head? body hhead, if_neg fun hstands => hhead hstands.2]
  · rw [hother before.head? rest hpre, if_neg fun hstands => hpre hstands.1]

/-- What ends with the first of some character ends at it, or before. -/
theorem prefix_cut {c : Char} {p v rest : Text} (hc : c ∉ p) (h : p ++ [c] <+: v ++ c :: rest) :
    p = v ∨ p ++ [c] <+: v := by
  induction v generalizing p with
  | nil =>
    cases p with
    | nil => exact .inl rfl
    | cons d p =>
      obtain ⟨rfl, -⟩ := List.cons_prefix_cons.1 h
      exact absurd (List.mem_cons_self ..) hc
  | cons d v ih =>
    cases p with
    | nil =>
      obtain ⟨rfl, -⟩ := List.cons_prefix_cons.1 h
      exact .inr ⟨v, rfl⟩
    | cons e p =>
      obtain ⟨rfl, hrest⟩ := List.cons_prefix_cons.1 h
      rcases ih (fun hm => hc (List.mem_cons_of_mem _ hm)) hrest with rfl | hpre
      · exact .inl rfl
      · exact .inr (List.cons_prefix_cons.2 ⟨rfl, hpre⟩)

section Delimited

variable {inner : Char → Bool} {closing : Char} (hclosing : inner closing = false)
include hclosing

/-- What comes before the closing character is the longest run of characters that may. -/
theorem takeWhile_append_closing {body : Text} (hbody : ∀ c ∈ body, inner c = true) (rest : Text) :
    (body ++ closing :: rest).takeWhile inner = body ∧
      (body ++ closing :: rest).dropWhile inner = closing :: rest := by
  rw [List.takeWhile_append_of_pos hbody, List.dropWhile_append_of_pos hbody,
    List.takeWhile_cons_of_neg (by simp [hclosing]), List.dropWhile_cons_of_neg (by simp [hclosing]),
    List.append_nil]
  exact ⟨rfl, rfl⟩

/-- **A delimited form is found wherever it stands.** -/
theorem finds_scanDelimited (opening : Text) (mark : Text → List (Option Text)) :
    (scanDelimited opening inner closing mark).Finds (Delimited opening inner closing mark) where
  ahead welcome before rest := by
    rw [scanDelimited, first_unique]
    rfl
  sound {t hit} hf := by
    rw [scanDelimited, first_unique] at hf
    split at hf
    · rename_i hstands
      obtain ⟨⟨rest, rfl⟩, hhead⟩ := hstands
      cases hf
      rw [List.drop_left] at hhead ⊢
      obtain ⟨after, hafter⟩ := List.head?_eq_some_iff.1 hhead
      have hrest := List.takeWhile_append_dropWhile (p := inner) (l := rest)
      rw [hafter] at hrest
      refine ⟨_, after, ?_, ⟨rest.takeWhile inner, rfl, List.all_eq_true.1 List.all_takeWhile, rfl⟩, ?_⟩
      · rw [List.append_assoc, List.append_assoc, List.singleton_append, hrest]
      · simp only [List.length_append, List.length_cons, List.length_nil]
        omega
    · cases hf
  complete {w groups} rest hw := by
    obtain ⟨body, rfl, hbody, rfl⟩ := hw
    obtain ⟨htake, hdrop⟩ := takeWhile_append_closing hclosing hbody rest
    have hstands : opening <+: opening ++ (body ++ [closing]) ++ rest :=
      ⟨_, (List.append_assoc ..).symm⟩
    rw [scanDelimited, first_unique]
    simp only [List.append_assoc, List.singleton_append, List.drop_left, htake, hdrop, List.head?_cons,
      and_true] at hstands ⊢
    rw [if_pos hstands]
    simp only [List.length_append, List.length_cons, List.length_nil]
    congr 2
    omega
  ne_nil {w groups} hw := by
    obtain ⟨body, rfl, -⟩ := hw
    simp

end Delimited

/-- Finds those hits whose marked parts are wanted. -/
def Scanner.choosing (scan : Scanner) (wanted : List (Option Text) → Bool) : Scanner :=
  fun welcome before rest => (scan welcome before rest).filter fun h => wanted h.groups

namespace Scanner.Finds

variable {scan : Scanner} {form : Text → List (Option Text) → Prop} (h : scan.Finds form)
  {wanted : List (Option Text) → Bool}
include h

/-- The wanted texts of a form are a form themselves. -/
theorem choosing (wanted : List (Option Text) → Bool) :
    (scan.choosing wanted).Finds fun w groups => form w groups ∧ wanted groups = true where
  ahead welcome before rest := by
    simp only [Scanner.choosing, Scanner.first, h.ahead welcome, Option.filter_filter]
    congr 1
    funext hit
    exact Bool.and_comm ..
  sound {t hit} hf := by
    obtain ⟨hfirst, hwanted⟩ := Option.filter_eq_some_iff.1 hf
    obtain ⟨w, rest, ht, hw, hlen⟩ := h.sound hfirst
    exact ⟨w, rest, ht, ⟨hw, hwanted⟩, hlen⟩
  complete {w groups} rest hw := Option.filter_eq_some_iff.2 ⟨h.complete rest hw.1, hw.2⟩
  ne_nil hw := h.ne_nil hw.1

/-- **Hits that give way to themselves need not be found,** if nothing of the form begins inside
of them. -/
theorem replace_choosing {instead : Text → List (Option Text) → Text}
    (hinside : ∀ {w groups}, form w groups → ∀ c ∈ w.tail, ∀ rest, ¬ Begins form (c :: rest))
    (hinstead : ∀ w groups, wanted groups = false → instead w groups = w) (t : Text) :
    replace (scan.choosing wanted) instead t = replace scan instead t := by
  have hc := h.choosing wanted
  have hbegins : ∀ {u}, Begins (fun w groups => form w groups ∧ wanted groups = true) u →
      Begins form u := fun ⟨w, groups, hw, hpre⟩ => ⟨w, groups, hw.1, hpre⟩
  induction t using h.induction with
  | nil => rw [hc.replace_nil, h.replace_nil]
  | plain c rest hnot ih =>
    rw [hc.replace_cons instead fun hb => hnot (hbegins hb), h.replace_cons instead hnot, ih]
  | hit w groups rest hw ih =>
    rw [h.replace_append_form instead hw]
    cases hwanted : wanted groups with
    | true => rw [hc.replace_append_form instead ⟨hw, hwanted⟩, ih]
    | false =>
      rw [hinstead w groups hwanted, ← ih]
      obtain ⟨c, tail, rfl⟩ := List.exists_cons_of_ne_nil (h.ne_nil hw)
      have hnot : ¬ Begins (fun w groups => form w groups ∧ wanted groups = true)
          (c :: (tail ++ rest)) := by
        rintro ⟨w', groups', ⟨hw', hwanted'⟩, after, ht⟩
        have hsame : scan.first (w' ++ after) = some ⟨(c :: tail).length, groups⟩ :=
          ht ▸ h.complete rest hw
        obtain ⟨-, rfl⟩ := Hit.mk.inj (Option.some.inj ((h.complete after hw').symm.trans hsame))
        exact Bool.false_ne_true (hwanted.symm.trans hwanted')
      have htail : ∀ d ∈ tail, ∀ rest,
          ¬ Begins (fun w groups => form w groups ∧ wanted groups = true) (d :: rest) :=
        fun d hd rest hb => hinside hw d hd rest (hbegins hb)
      rw [List.cons_append, hc.replace_cons instead hnot, hc.replace_append_of_not_begins instead htail,
        List.cons_append]

end Scanner.Finds
end Text
end TermStyle
