/-
# Scanning from a place on

A scanner may ask for what is before a place.  So what is put in the place of hits depends on where the
scan begins.  Where it asks for the character before the place only, a text can be scanned part by part if
the last character of one part is told to the next (`replaceFrom`).

| at a place | result |
| --- | --- |
| a hit | the text in its place, and the scan goes on behind it (`replaceFrom_of_hit`) |
| none | the character, and the scan goes on with the next one (`replaceFrom_of_none`) |
| none in a whole part | the part, and the scan goes on behind it (`replaceFrom_append`) |
-/

import TermStyle.Text.Scan

namespace TermStyle
namespace Text

/-- **Texts before a place that a scanner cannot tell apart** give the same pieces from there on. -/
theorem piecesFrom_congr {scan : Scanner} (alike : Text → Text → Prop)
    (hscan : ∀ {a b}, alike a b → ∀ welcome rest, scan welcome a rest = scan welcome b rest)
    (hcons : ∀ {a b} c, alike a b → alike (c :: a) (c :: b)) {before other : Text}
    (h : alike before other) (skip : Nat) (t : Text) :
    piecesFrom scan before skip t = piecesFrom scan other skip t := by
  have hstanding : ∀ {a b}, alike a b → ∀ rest, scan.standing a rest = scan.standing b rest := by
    intro a b hab rest
    rw [Scanner.standing, Scanner.standing, hscan hab, hscan hab]
  induction t generalizing before other skip with
  | nil => cases skip <;> rw [piecesFrom, piecesFrom, hstanding h]
  | cons c rest ih =>
    cases skip with
    | succ skip => exact ih (hcons c h) skip
    | zero => simp only [piecesFrom, hstanding h, ih (hcons c h)]

/-- The text from one place on, with another text in the place of each hit; the place has the given
character before it, if any. -/
def replaceFrom (scan : Scanner) (instead : Text → List (Option Text) → Text) (before : Option Char)
    (t : Text) : Text :=
  (piecesFrom scan before.toList 0 t).flatMap (Piece.replaced instead)

/-- Behind a first character, what stood before it does not count. -/
theorem getLast?_cons_or (c : Char) (w : Text) (before : Option Char) :
    (c :: w).getLast?.or before = w.getLast?.or (some c) := by
  rw [List.getLast?_cons]
  cases w.getLast? <;> rfl

/-- The pieces behind a part that is left out. -/
theorem piecesFrom_append (scan : Scanner) (before w t : Text) :
    piecesFrom scan before w.length (w ++ t) = piecesFrom scan (w.reverse ++ before) 0 t := by
  induction w generalizing before with
  | nil => rfl
  | cons c w ih =>
    rw [List.length_cons, List.cons_append, piecesFrom, ih, List.reverse_cons, List.append_assoc,
      List.singleton_append]

variable {find : Option Char → Text → Option Hit} {instead : Text → List (Option Text) → Text}
  {before : Option Char}

/-- To a scanner that asks for one character, the last one before a place is all that counts. -/
theorem flatMap_piecesFrom_unique (earlier t : Text) :
    (piecesFrom (.unique find) earlier 0 t).flatMap (Piece.replaced instead) =
      replaceFrom (.unique find) instead earlier.head? t := by
  have hhead : earlier.head? = earlier.head?.toList.head? := by cases earlier <;> rfl
  rw [replaceFrom, piecesFrom_congr (fun a b => a.head? = b.head?) _ _ hhead 0 t]
  · intro a b h welcome rest
    simp only [Scanner.unique, h]
  · exact fun _ _ => rfl

theorem Scanner.standing_unique_of_none {rest : Text} (h : find before rest = none) :
    (Scanner.unique find).standing before.toList rest = (none, none) := by
  have hhead : before.toList.head? = before := by cases before <;> rfl
  simp only [standing, Scanner.unique, hhead, h, Option.filter_none]

theorem Scanner.standing_unique_of_some {rest : Text} {n : Nat} {groups : List (Option Text)}
    (h : find before rest = some ⟨n + 1, groups⟩) :
    (Scanner.unique find).standing before.toList rest = (none, some ⟨n + 1, groups⟩) := by
  have hhead : before.toList.head? = before := by cases before <;> rfl
  simp only [standing, Scanner.unique, hhead, h, Option.filter_some, if_true]

theorem replaceFrom_nil (h : find before [] = none) : replaceFrom (.unique find) instead before [] = [] := by
  rw [replaceFrom, piecesFrom, Scanner.standing_unique_of_none h]
  rfl

/-- **Where there is no hit, a character stays.** -/
theorem replaceFrom_of_none {c : Char} {t : Text} (h : find before (c :: t) = none) :
    replaceFrom (.unique find) instead before (c :: t) =
      c :: replaceFrom (.unique find) instead (some c) t := by
  rw [replaceFrom, piecesFrom, Scanner.standing_unique_of_none h]
  exact congrArg (c :: ·) (flatMap_piecesFrom_unique (c :: before.toList) t)

/-- **A hit gives way,** and its last character stands before what follows. -/
theorem replaceFrom_of_hit {w t : Text} {groups : List (Option Text)} (hw : w ≠ [])
    (h : find before (w ++ t) = some ⟨w.length, groups⟩) :
    replaceFrom (.unique find) instead before (w ++ t) =
      instead w groups ++ replaceFrom (.unique find) instead w.getLast? t := by
  obtain ⟨c, w, rfl⟩ := List.exists_cons_of_ne_nil hw
  have hlast : (w.reverse ++ c :: before.toList).head? = (c :: w).getLast? := by
    rw [List.head?_append, List.head?_reverse, List.head?_cons, ← getLast?_cons_or c w none, Option.or_none]
  rw [List.cons_append, List.length_cons] at h
  rw [List.cons_append, replaceFrom, piecesFrom, Scanner.standing_unique_of_some h]
  simp only [emptyPiece, List.nil_append, List.take_left, piecesFrom_append, List.flatMap_cons,
    Piece.replaced, flatMap_piecesFrom_unique, hlast]

/-- **A part stays if there is no hit at any place in it.** -/
theorem replaceFrom_append {w t : Text}
    (h : ∀ p s, w = p ++ s → s ≠ [] → find (p.getLast?.or before) (s ++ t) = none) :
    replaceFrom (.unique find) instead before (w ++ t) =
      w ++ replaceFrom (.unique find) instead (w.getLast?.or before) t := by
  induction w generalizing before with
  | nil => rfl
  | cons c w ih =>
    have hhere : find before (c :: (w ++ t)) = none := h [] (c :: w) rfl (List.cons_ne_nil _ _)
    have hlater : ∀ p s, w = p ++ s → s ≠ [] → find (p.getLast?.or (some c)) (s ++ t) = none := by
      rintro p s rfl hs
      have hbehind := h (c :: p) s rfl hs
      rw [getLast?_cons_or] at hbehind
      exact hbehind
    rw [List.cons_append, replaceFrom_of_none hhere, ih hlater, getLast?_cons_or, List.cons_append]

/-- Where two characters before a place make no difference there, they make none behind it. -/
theorem replaceFrom_before {other : Option Char} (h : ∀ rest, find before rest = find other rest) (t : Text) :
    replaceFrom (.unique find) instead before t = replaceFrom (.unique find) instead other t := by
  rw [replaceFrom, replaceFrom,
    piecesFrom_congr (fun a b => ∀ rest, find a.head? rest = find b.head? rest) _ _ _ 0 t]
  · intro a b hab welcome rest
    simp only [Scanner.unique, hab]
  · exact fun _ _ _ => rfl
  · intro rest
    cases before <;> cases other <;> exact h rest

end Text
end TermStyle
