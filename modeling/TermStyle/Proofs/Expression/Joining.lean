/-
# Where words are joined

Each step of the normal form joins words: it puts a low line in the place of some of the runs of blanks and
leaves everything else as it was.  Which runs these are is decided by the words next to them:

| step | joins at a run if the word |
| --- | --- |
| `foldBright` | before it ends with `bright` (`Closes`) |
| `foldBackground` | before it ends with `bg` |
| `foldOff` | behind it begins with `off` (`Opens`) |

where the modifier is not part of a longer word of letters and digits.

A step is known when it is known what it does to a word, to a word before a low line, and to a word before
a run (`JoinsWhere`), for every text is made of these (`JoinsWhere.unique`).  A low line counts as a
boundary just as a blank does, so one step leaves what the next one looks at, and the next joins at its own
runs as well (`JoinsWhere.andThen`).  Thus the normal form joins where any of the three steps does
(`joinsWhere_normalize`).
-/

import TermStyle.Expression.Normal
import TermStyle.Proofs.Text.Lookbehind
import TermStyle.Proofs.Text.Runs

namespace TermStyle
namespace Expression

open Text (Solid IsRun StartsSolid EndsSolid isBlank)

/-- Whether a text ends with a modifier that is not the end of a longer word. -/
def Closes (m t : Text) : Prop := ∃ u, t = u ++ m ∧ u.getLast?.any Char.isAlphanum = false

/-- Whether a text begins with a modifier that is not the beginning of a longer word. -/
def Opens (m t : Text) : Prop := ∃ u, t = m ++ u ∧ u.head?.any Char.isAlphanum = false

instance (m t : Text) : Decidable (Closes m t) :=
  decidable_of_iff (m <:+ t ∧ (t.take (t.length - m.length)).getLast?.any Char.isAlphanum = false) <| by
    constructor
    · rintro ⟨⟨u, rfl⟩, hbefore⟩
      rw [List.length_append, Nat.add_sub_cancel, List.take_left] at hbefore
      exact ⟨u, rfl, hbefore⟩
    · rintro ⟨u, rfl, hbefore⟩
      rw [List.length_append, Nat.add_sub_cancel, List.take_left]
      exact ⟨List.suffix_append u m, hbefore⟩

instance (m t : Text) : Decidable (Opens m t) :=
  decidable_of_iff (m <+: t ∧ (t.drop m.length).head?.any Char.isAlphanum = false) <| by
    constructor
    · rintro ⟨⟨u, rfl⟩, hbehind⟩
      rw [List.drop_left] at hbehind
      exact ⟨u, rfl, hbehind⟩
    · rintro ⟨u, rfl, hbehind⟩
      rw [List.drop_left]
      exact ⟨List.prefix_append m u, hbehind⟩

/-- Letters and digits, at least one. -/
structure IsModifier (m : Text) : Prop where
  /-- There is a character. -/
  ne_nil : m ≠ []
  /-- There are letters and digits only. -/
  alphanum : ∀ c ∈ m, c.isAlphanum = true

theorem isModifier_brightWord : IsModifier brightWord :=
  ⟨by decide, List.all_eq_true.1 (by decide)⟩

theorem isModifier_backgroundWord : IsModifier backgroundWord :=
  ⟨by decide, List.all_eq_true.1 (by decide)⟩

theorem isModifier_offWord : IsModifier offWord :=
  ⟨by decide, List.all_eq_true.1 (by decide)⟩

theorem any_isAlphanum_eq_false {o : Option Char} :
    o.any Char.isAlphanum = false ↔ ∀ c, o = some c → c.isAlphanum = false :=
  Option.any_eq_false _ _

section Boundaries

variable {m : Text} (hm : IsModifier m)
include hm

theorem IsModifier.solid : Solid m := by
  intro c hc
  rw [Bool.eq_false_iff]
  intro hblank
  exact Bool.false_ne_true ((Text.isAlphanum_of_isBlank hblank).symm.trans (hm.alphanum c hc))

theorem not_closes_nil : ¬ Closes m [] := by
  rintro ⟨u, hu, -⟩
  exact hm.ne_nil (List.append_eq_nil_iff.1 hu.symm).2

theorem not_opens_nil : ¬ Opens m [] := by
  rintro ⟨u, hu, -⟩
  exact hm.ne_nil (List.append_eq_nil_iff.1 hu.symm).1

/-- What a modifier is to end with cannot be divided by a boundary. -/
theorem closes_append_iff {a : Text} (ha : a.getLast?.any Char.isAlphanum = false) (w : Text) :
    Closes m (a ++ w) ↔ Closes m w := by
  constructor
  · rintro ⟨u, hu, hbefore⟩
    rcases List.append_eq_append_iff.1 hu with ⟨b, rfl, hw⟩ | ⟨b, hab, hmb⟩
    · refine ⟨b, hw, ?_⟩
      rw [any_isAlphanum_eq_false] at hbefore ⊢
      intro c hc
      exact hbefore c (by rw [List.getLast?_append, hc]; rfl)
    · cases hlast : b.getLast? with
      | none =>
        rw [List.getLast?_eq_none_iff.1 hlast, List.nil_append] at hmb
        exact ⟨[], hmb.symm, rfl⟩
      | some c =>
        -- The last character of `a` would be one of the modifier.
        have hin : c ∈ m := hmb ▸ List.mem_append_left w (List.mem_of_getLast? hlast)
        have hnot := any_isAlphanum_eq_false.1 ha c (by rw [hab, List.getLast?_append, hlast]; rfl)
        exact absurd (hm.alphanum c hin) (Bool.eq_false_iff.1 hnot)
  · rintro ⟨u, rfl, hbefore⟩
    refine ⟨a ++ u, (List.append_assoc ..).symm, ?_⟩
    rw [any_isAlphanum_eq_false] at hbefore ha ⊢
    intro c hc
    rw [List.getLast?_append] at hc
    rcases Option.or_eq_some_iff.1 hc with hu | ⟨-, hc⟩
    · exact hbefore c hu
    · exact ha c hc

/-- What a modifier is to begin with cannot be divided by a boundary. -/
theorem opens_append_iff {z : Text} (hz : z.head?.any Char.isAlphanum = false) (w : Text) :
    Opens m (w ++ z) ↔ Opens m w := by
  constructor
  · rintro ⟨u, hu, hbehind⟩
    rcases List.append_eq_append_iff.1 hu with ⟨b, hmb, hzb⟩ | ⟨b, hw, rfl⟩
    · cases hfirst : b.head? with
      | none =>
        rw [List.head?_eq_none_iff.1 hfirst, List.append_nil] at hmb
        exact ⟨[], by rw [hmb, List.append_nil], rfl⟩
      | some c =>
        -- The first character of `z` would be one of the modifier.
        have hin : c ∈ m := hmb ▸ List.mem_append_right w (List.mem_of_head? hfirst)
        have hnot := any_isAlphanum_eq_false.1 hz c (by rw [hzb, List.head?_append, hfirst]; rfl)
        exact absurd (hm.alphanum c hin) (Bool.eq_false_iff.1 hnot)
    · refine ⟨b, hw, ?_⟩
      rw [any_isAlphanum_eq_false] at hbehind ⊢
      intro c hc
      exact hbehind c (by rw [List.head?_append, hc]; rfl)
  · rintro ⟨u, rfl, hbehind⟩
    refine ⟨u ++ z, List.append_assoc .., ?_⟩
    rw [any_isAlphanum_eq_false] at hbehind hz ⊢
    intro c hc
    rw [List.head?_append] at hc
    rcases Option.or_eq_some_iff.1 hc with hu | ⟨-, hc⟩
    · exact hbehind c hu
    · exact hz c hc

end Boundaries

/-- What is said of a run is local if it is decided by the words next to the run: what stands before or
behind a boundary makes no difference. -/
structure Local (joins : Text → Text → Prop) : Prop where
  /-- The text before a boundary makes no difference. -/
  before : ∀ {a} w y, a.getLast?.any Char.isAlphanum = false → (joins (a ++ w) y ↔ joins w y)
  /-- The text behind a boundary makes no difference. -/
  behind : ∀ {z} w y, z.head?.any Char.isAlphanum = false → (joins w (y ++ z) ↔ joins w y)

theorem local_closes {m : Text} (hm : IsModifier m) : Local fun w _ => Closes m w where
  before w _ ha := closes_append_iff hm ha w
  behind _ _ _ := Iff.rfl

theorem local_opens {m : Text} (hm : IsModifier m) : Local fun _ y => Opens m y where
  before _ _ _ := Iff.rfl
  behind _ y hz := opens_append_iff hm hz y

theorem Local.or {joins others : Text → Text → Prop} (h : Local joins) (k : Local others) :
    Local fun w y => joins w y ∨ others w y where
  before w y ha := or_congr (h.before w y ha) (k.before w y ha)
  behind w y hz := or_congr (h.behind w y hz) (k.behind w y hz)

/-- What it is to join words where it is said: to put a low line in the place of those runs that stand
between two texts of which it is said, and to leave everything else. -/
structure JoinsWhere (joins : Text → Text → Prop) (fold : Text → Text) : Prop where
  /-- A word stays. -/
  word : ∀ {w}, Solid w → fold w = w
  /-- A low line behind a word stays, and divides what is done. -/
  line : ∀ {w} y, Solid w → fold (w ++ '_' :: y) = w ++ '_' :: fold y
  /-- A run gives way where it is to be joined. -/
  joined : ∀ {w r y}, Solid w → IsRun r → StartsSolid y → joins w y → fold (w ++ (r ++ y)) = w ++ '_' :: fold y
  /-- A run stays elsewhere. -/
  kept : ∀ {w r y}, Solid w → IsRun r → StartsSolid y → ¬ joins w y → fold (w ++ (r ++ y)) = w ++ (r ++ fold y)

namespace JoinsWhere

variable {joins others : Text → Text → Prop} {fold next : Text → Text}

/-- **It is said in full:** two ways to join words at the same runs are the same. -/
theorem unique (h : JoinsWhere joins fold) (k : JoinsWhere joins next) : fold = next := by
  funext t
  induction t using Text.run_induction with
  | word w hw => rw [h.word hw, k.word hw]
  | run w r y hw hr hy ih =>
    by_cases hjoins : joins w y
    · rw [h.joined hw hr hy hjoins, k.joined hw hr hy hjoins, ih]
    · rw [h.kept hw hr hy hjoins, k.kept hw hr hy hjoins, ih]

/-- **The first word stays, and a boundary behind it:** a text and what becomes of it begin alike. -/
theorem exists_word (h : JoinsWhere joins fold) (y : Text) :
    ∃ w z z', Solid w ∧ y = w ++ z ∧ fold y = w ++ z' ∧ z.head?.any Char.isAlphanum = false ∧
      z'.head?.any Char.isAlphanum = false ∧ (StartsSolid z → z' = []) := by
  rcases Text.exists_run y with hsolid | ⟨w, r, y, rfl, hw, hr, hy⟩
  · exact ⟨y, [], [], hsolid, (List.append_nil y).symm, by rw [h.word hsolid, List.append_nil], rfl, rfl,
      fun _ => rfl⟩
  · have hnot := hr.not_startsSolid y
    by_cases hjoins : joins w y
    · exact ⟨w, _, _, hw, rfl, h.joined hw hr hy hjoins, hr.any_head? y, rfl, fun hstarts => absurd hstarts hnot⟩
    · exact ⟨w, _, _, hw, rfl, h.kept hw hr hy hjoins, hr.any_head? y, hr.any_head? _,
        fun hstarts => absurd hstarts hnot⟩

/-- To join words makes no difference to what is said of a run before them. -/
theorem joins_fold_iff (h : JoinsWhere joins fold) (hlocal : Local others) (w y : Text) :
    others w (fold y) ↔ others w y := by
  obtain ⟨v, z, z', -, hy, hfold, hz, hz', -⟩ := h.exists_word y
  rw [hfold, hy, hlocal.behind w v hz', hlocal.behind w v hz]

theorem startsSolid (h : JoinsWhere joins fold) {y : Text} (hy : StartsSolid y) : StartsSolid (fold y) := by
  obtain ⟨w, z, z', hw, rfl, hfold, -, -, hnil⟩ := h.exists_word y
  rw [hfold]
  by_cases hempty : w = []
  · subst hempty
    rw [hnil hy]
    exact Solid.nil.startsSolid
  · exact hw.startsSolid.append hempty z'

/-- What does not end with a blank does not end with one afterwards, and does not become empty. -/
theorem endsSolid (h : JoinsWhere joins fold) {x : Text} (hx : EndsSolid x) (hne : x ≠ []) :
    EndsSolid (fold x) ∧ fold x ≠ [] := by
  induction x using Text.run_induction with
  | word x hsolid =>
    rw [h.word hsolid]
    exact ⟨hx, hne⟩
  | run w r y hw hr hy ih =>
    obtain ⟨hyne, hyends⟩ := hx.of_run hr
    obtain ⟨hends, hfold⟩ := ih hyends hyne
    by_cases hjoins : joins w y
    · rw [h.joined hw hr hy hjoins, List.append_cons]
      exact ⟨hends.append hfold _, List.append_ne_nil_of_right_ne_nil _ hfold⟩
    · rw [h.kept hw hr hy hjoins, ← List.append_assoc]
      exact ⟨hends.append hfold _, List.append_ne_nil_of_right_ne_nil _ hfold⟩

/-- **One after the other joins where either does.** -/
theorem andThen (h : JoinsWhere joins fold) (k : JoinsWhere others next) (hlocal : Local others) :
    JoinsWhere (fun w y => joins w y ∨ others w y) (fun t => next (fold t)) where
  word hw := by rw [h.word hw, k.word hw]
  line y hw := by rw [h.line y hw, k.line _ hw]
  joined {w r y} hw hr hy hjoins := by
    by_cases hfirst : joins w y
    · rw [h.joined hw hr hy hfirst, k.line _ hw]
    · have hsecond := (h.joins_fold_iff hlocal w y).2 (hjoins.resolve_left hfirst)
      rw [h.kept hw hr hy hfirst, k.joined hw hr (h.startsSolid hy) hsecond]
  kept {w r y} hw hr hy hjoins := by
    obtain ⟨hfirst, hsecond⟩ := not_or.1 hjoins
    rw [← h.joins_fold_iff hlocal w y] at hsecond
    rw [h.kept hw hr hy hfirst, k.kept hw hr (h.startsSolid hy) hsecond]

/-- **A text can be cut at any run,** not only at the first: what is done on one side of it does not depend on
the other. -/
theorem append_run (h : JoinsWhere joins fold) (hlocal : Local joins) {x r y : Text} (hx : EndsSolid x)
    (hr : IsRun r) (hy : StartsSolid y) :
    (joins x y → fold (x ++ (r ++ y)) = fold x ++ '_' :: fold y) ∧
      (¬ joins x y → fold (x ++ (r ++ y)) = fold x ++ (r ++ fold y)) := by
  induction x using Text.run_induction with
  | word x hsolid =>
    rw [h.word hsolid]
    exact ⟨h.joined hsolid hr hy, h.kept hsolid hr hy⟩
  | run w r' x hw hr' hstarts ih =>
    obtain ⟨hne, hends⟩ := hx.of_run hr'
    have hmore : StartsSolid (x ++ (r ++ y)) := hstarts.append hne _
    have hsame : joins (w ++ (r' ++ x)) y ↔ joins x y := by
      rw [← List.append_assoc]
      exact hlocal.before x y (hr'.any_getLast?_append w)
    have hbefore : joins w (x ++ (r ++ y)) ↔ joins w x := hlocal.behind w x (hr.any_head? y)
    obtain ⟨hjoined, hkept⟩ := ih hends
    rw [hsame, List.append_assoc, List.append_assoc]
    by_cases hfirst : joins w x
    · rw [h.joined hw hr' hmore (hbefore.2 hfirst), h.joined hw hr' hstarts hfirst]
      refine ⟨fun hjoins => ?_, fun hjoins => ?_⟩
      · rw [hjoined hjoins, List.append_assoc, List.cons_append]
      · rw [hkept hjoins, List.append_assoc, List.cons_append]
    · rw [h.kept hw hr' hmore fun hjoins => hfirst (hbefore.1 hjoins), h.kept hw hr' hstarts hfirst]
      refine ⟨fun hjoins => ?_, fun hjoins => ?_⟩
      · rw [hjoined hjoins, List.append_assoc, List.append_assoc]
      · rw [hkept hjoins, List.append_assoc, List.append_assoc]

end JoinsWhere

section Modifier

variable {m : Text} {before : Option Char}

/-- What `modifierScan` finds at a place. -/
def modifierAt (m : Text) (before : Option Char) (rest : Text) : Option Text.Hit :=
  if before.any Char.isAlphanum || !m.isPrefixOf rest || ((rest.drop m.length).takeWhile isBlank).isEmpty then
    none
  else some ⟨m.length + ((rest.drop m.length).takeWhile isBlank).length, []⟩

/-- A modifier is found only before a blank, and only at a boundary. -/
theorem modifierAt_eq_none {rest : Text}
    (h : ∀ c t, isBlank c = true → rest = m ++ c :: t → before.any Char.isAlphanum = true) :
    modifierAt m before rest = none := by
  unfold modifierAt
  split
  · rfl
  · rename_i hfound
    simp only [Bool.or_eq_true, not_or, Bool.not_eq_true, Bool.not_eq_false',
      List.isPrefixOf_iff_prefix] at hfound
    obtain ⟨⟨hbefore, t, rfl⟩, hblanks⟩ := hfound
    rw [List.drop_left] at hblanks
    cases t with
    | nil => cases hblanks
    | cons c t =>
      cases hc : isBlank c with
      | true => exact absurd (h c t hc rfl) (Bool.eq_false_iff.1 hbefore)
      | false =>
        rw [List.takeWhile_cons_of_neg (by rw [hc]; exact Bool.false_ne_true)] at hblanks
        cases hblanks

theorem modifierAt_run (hbefore : before.any Char.isAlphanum = false) {r y : Text} (hr : IsRun r)
    (hy : StartsSolid y) : modifierAt m before ((m ++ r) ++ y) = some ⟨(m ++ r).length, []⟩ := by
  have hbegins : m.isPrefixOf (m ++ (r ++ y)) = true := List.isPrefixOf_iff_prefix.2 (List.prefix_append ..)
  have hsome : r.isEmpty = false := List.isEmpty_eq_false_iff.2 hr.ne_nil
  rw [List.append_assoc, modifierAt, List.drop_left, Text.takeWhile_isBlank hr.blank hy, hbefore, hbegins, hsome,
    List.length_append]
  rfl

/-- The text from a place on, with a low line in the place of the blanks behind the modifier. -/
def foldFrom (m : Text) (before : Option Char) (t : Text) : Text :=
  Text.replaceFrom (modifierScan m) (fun _ _ => m ++ ['_']) before t

theorem foldFrom_append {w t : Text}
    (h : ∀ p s, w = p ++ s → s ≠ [] → modifierAt m (p.getLast?.or before) (s ++ t) = none) :
    foldFrom m before (w ++ t) = w ++ foldFrom m (w.getLast?.or before) t :=
  Text.replaceFrom_append h

/-- At a boundary it makes no difference which one it is. -/
theorem foldFrom_before (h : before.any Char.isAlphanum = false) (t : Text) :
    foldFrom m before t = foldFrom m none t := by
  have hat : ∀ rest, modifierAt m before rest = modifierAt m none rest := by
    intro rest
    rw [modifierAt, modifierAt, h]
    rfl
  exact Text.replaceFrom_before hat t

variable (hm : IsModifier m)
include hm

/-- No modifier begins with anything but a letter or a digit. -/
theorem modifierAt_of_clear {c : Char} (hc : c.isAlphanum = false) (t : Text) :
    modifierAt m before (c :: t) = none := by
  refine modifierAt_eq_none fun d t' _ hcut => ?_
  obtain ⟨a, m', rfl⟩ := List.exists_cons_of_ne_nil hm.ne_nil
  have halnum := hm.alphanum a (List.mem_cons_self ..)
  rw [← (List.cons.inj hcut).1, hc] at halnum
  cases halnum

theorem foldFrom_nil : foldFrom m before [] = [] := by
  refine Text.replaceFrom_nil (modifierAt_eq_none fun c t _ hcut => ?_)
  exact absurd (List.append_eq_nil_iff.1 hcut.symm).1 hm.ne_nil

/-- A modifier that stands before a blank, where a word begins, is this word. -/
theorem eq_of_append_eq {s z t : Text} {c : Char} (hs : Solid s) (hz : z.head?.any Char.isAlphanum = false)
    (hc : isBlank c = true) (h : s ++ z = m ++ c :: t) : s = m ∧ z = c :: t := by
  rcases List.append_eq_append_iff.1 h with ⟨a, hma, hza⟩ | ⟨a, hsa, hca⟩
  · cases a with
    | nil => exact ⟨by rw [hma, List.append_nil], hza⟩
    | cons d a =>
      -- What follows the word would begin with a letter of the modifier.
      have halnum := hm.alphanum d (hma ▸ List.mem_append_right s (List.mem_cons_self ..))
      rw [hza] at hz
      exact absurd halnum (Bool.eq_false_iff.1 hz)
  · cases a with
    | nil => exact ⟨by rw [hsa, List.append_nil], hca.symm⟩
    | cons d a =>
      -- The blank would be in the word.
      have hin : d ∈ s := hsa ▸ List.mem_append_right m (List.mem_cons_self ..)
      rw [(List.cons.inj hca).1, hs d hin] at hc
      cases hc

/-- **A word stays,** unless a run follows and it ends with the modifier. -/
theorem foldFrom_solid {w z : Text} (hw : Solid w) (hz : z.head?.any Char.isAlphanum = false)
    (hnot : ∀ c t, isBlank c = true → z = c :: t → ¬ Closes m w) :
    foldFrom m none (w ++ z) = w ++ foldFrom m w.getLast? z := by
  rw [foldFrom_append, Option.or_none]
  rintro p s rfl hs
  refine modifierAt_eq_none fun c t hc hcut => ?_
  obtain ⟨rfl, rfl⟩ := eq_of_append_eq hm hw.right hz hc hcut
  rw [Option.or_none]
  cases hlast : p.getLast?.any Char.isAlphanum with
  | true => rfl
  | false => exact absurd ⟨p, rfl, hlast⟩ (hnot c t hc rfl)

/-- **A run stays** where the scan begins with it. -/
theorem foldFrom_run {r : Text} (hr : IsRun r) (y : Text) : foldFrom m before (r ++ y) = r ++ foldFrom m none y := by
  rw [foldFrom_append, foldFrom_before (hr.any_getLast? before)]
  rintro p s rfl hs
  obtain ⟨c, s, rfl⟩ := List.exists_cons_of_ne_nil hs
  have hblank := hr.blank c (List.mem_append_right p (List.mem_cons_self ..))
  exact modifierAt_of_clear hm (Text.isAlphanum_of_isBlank hblank) _

/-- **The blanks behind a modifier give way,** and what stands before it stays. -/
theorem foldFrom_closing {u r y : Text} (hu : Solid u) (hbefore : u.getLast?.any Char.isAlphanum = false)
    (hr : IsRun r) (hy : StartsSolid y) :
    foldFrom m none (u ++ ((m ++ r) ++ y)) = u ++ ((m ++ ['_']) ++ foldFrom m none y) := by
  have hhit : foldFrom m u.getLast? ((m ++ r) ++ y) = (m ++ ['_']) ++ foldFrom m (m ++ r).getLast? y :=
    Text.replaceFrom_of_hit (List.append_ne_nil_of_left_ne_nil hm.ne_nil r) (modifierAt_run hbefore hr hy)
  rw [foldFrom_append, Option.or_none, hhit, foldFrom_before (hr.any_getLast?_append m)]
  rintro p s rfl hs
  refine modifierAt_eq_none fun c t hc hcut => ?_
  -- The modifier would have to end where the word does, but it begins before.
  rw [List.append_assoc, ← List.append_assoc] at hcut
  have hsame := (eq_of_append_eq hm (hu.right.append hm.solid) (hr.any_head? y) hc hcut).1
  exact absurd (List.append_left_eq_self.1 hsame) hs

/-- **A modifier is joined to the word behind it,** wherever it ends the word before a run. -/
theorem joinsWhere_modifier : JoinsWhere (fun w _ => Closes m w) (foldFrom m none) where
  word {w} hw := by
    have hfold : foldFrom m none (w ++ []) = w ++ foldFrom m w.getLast? [] :=
      foldFrom_solid hm hw rfl fun _ _ _ hcut => nomatch hcut
    rw [List.append_nil, foldFrom_nil hm, List.append_nil] at hfold
    exact hfold
  line {w} y hw := by
    have hline : foldFrom m w.getLast? ('_' :: y) = '_' :: foldFrom m (some '_') y :=
      Text.replaceFrom_of_none (modifierAt_of_clear hm rfl y)
    rw [foldFrom_solid hm hw rfl, hline, foldFrom_before rfl]
    intro c t hc hcut
    rw [← (List.cons.inj hcut).1] at hc
    cases hc
  joined {w r y} hw hr hy hcloses := by
    obtain ⟨u, rfl, hbefore⟩ := hcloses
    have hfold := foldFrom_closing hm hw.left hbefore hr hy
    simp only [List.append_assoc, List.singleton_append] at hfold ⊢
    exact hfold
  kept {w r y} hw hr hy hnot := by
    rw [foldFrom_solid hm hw (hr.any_head? y) fun _ _ _ _ => hnot, foldFrom_run hm hr]

end Modifier

/-- What `offScan` finds at a place. -/
def offAt (rest : Text) : Option Text.Hit :=
  let after := rest.drop (rest.takeWhile isBlank).length
  if (rest.takeWhile isBlank).isEmpty || !offWord.isPrefixOf after ||
      (after.drop offWord.length).head?.any Char.isAlphanum then none
  else some ⟨(rest.takeWhile isBlank).length + offWord.length, []⟩

/-- The text from a place on, with a low line in the place of the blanks before `off`. -/
def foldOffFrom (before : Option Char) (t : Text) : Text :=
  Text.replaceFrom offScan (fun _ _ => '_' :: offWord) before t

/-- What stands before a place makes no difference. -/
theorem foldOffFrom_eq (before : Option Char) (t : Text) : foldOffFrom before t = foldOff t := by
  have hnone : foldOffFrom before t = foldOffFrom none t := by
    refine Text.replaceFrom_before ?_ t
    exact fun _ => rfl
  exact hnone

theorem offAt_of_solid {c : Char} (hc : isBlank c = false) (t : Text) : offAt (c :: t) = none := by
  rw [offAt, List.takeWhile_cons_of_neg (by rw [hc]; exact Bool.false_ne_true)]
  rfl

/-- Behind a run, `off` is found exactly if the text begins with it. -/
theorem offAt_run {r y : Text} (hr : IsRun r) (hy : StartsSolid y) :
    (Opens offWord y → offAt (r ++ y) = some ⟨(r ++ offWord).length, []⟩) ∧
      (¬ Opens offWord y → offAt (r ++ y) = none) := by
  have hsome : r.isEmpty = false := List.isEmpty_eq_false_iff.2 hr.ne_nil
  simp only [offAt, Text.takeWhile_isBlank hr.blank hy, List.drop_left, hsome, Bool.false_or]
  constructor
  · rintro ⟨u, rfl, hbehind⟩
    have hbegins : offWord.isPrefixOf (offWord ++ u) = true := List.isPrefixOf_iff_prefix.2 (List.prefix_append ..)
    rw [hbegins, List.drop_left, hbehind, List.length_append]
    rfl
  · intro hnot
    split
    · rfl
    · rename_i hfound
      simp only [Bool.or_eq_true, not_or, Bool.not_eq_true, Bool.not_eq_false',
        List.isPrefixOf_iff_prefix] at hfound
      obtain ⟨⟨u, rfl⟩, hbehind⟩ := hfound
      rw [List.drop_left] at hbehind
      exact absurd ⟨u, rfl, hbehind⟩ hnot

theorem foldOff_append {w t : Text} (h : ∀ p s, w = p ++ s → s ≠ [] → offAt (s ++ t) = none) :
    foldOff (w ++ t) = w ++ foldOff t := by
  have hpass : foldOffFrom none (w ++ t) = w ++ foldOffFrom (w.getLast?.or none) t :=
    Text.replaceFrom_append h
  rwa [foldOffFrom_eq, foldOffFrom_eq] at hpass

/-- A word stays, whatever follows it. -/
theorem foldOff_solid {w : Text} (hw : Solid w) (z : Text) : foldOff (w ++ z) = w ++ foldOff z := by
  refine foldOff_append fun p s hcut hs => ?_
  obtain ⟨c, s, rfl⟩ := List.exists_cons_of_ne_nil hs
  exact offAt_of_solid (hw c (hcut ▸ List.mem_append_right p (List.mem_cons_self ..))) _

/-- **`off` is joined to the word before it,** wherever it begins the word behind a run. -/
theorem joinsWhere_foldOff : JoinsWhere (fun _ y => Opens offWord y) foldOff where
  word {w} hw := by
    have hfold := foldOff_solid hw []
    rw [List.append_nil] at hfold
    exact hfold.trans (List.append_nil w)
  line {w} y hw := by
    have hline : Solid (w ++ ['_']) := hw.append (List.forall_mem_singleton.2 rfl)
    rw [List.append_cons w '_' y, List.append_cons w '_' (foldOff y)]
    exact foldOff_solid hline y
  joined {w r y} hw hr hy hopens := by
    have hhit := (offAt_run hr hy).1 hopens
    obtain ⟨u, rfl, -⟩ := hopens
    rw [← List.append_assoc] at hhit
    have hfold : foldOffFrom none ((r ++ offWord) ++ u) =
        ('_' :: offWord) ++ foldOffFrom (r ++ offWord).getLast? u :=
      Text.replaceFrom_of_hit (List.append_ne_nil_of_left_ne_nil hr.ne_nil _) hhit
    rw [foldOffFrom_eq, foldOffFrom_eq] at hfold
    rw [foldOff_solid hw, foldOff_solid isModifier_offWord.solid, ← List.append_assoc r, hfold]
    rfl
  kept {w r y} hw hr hy hnot := by
    rw [foldOff_solid hw, foldOff_append]
    rintro p s rfl hs
    have hrest : IsRun s := ⟨hs, fun c hc => hr.blank c (List.mem_append_right p hc)⟩
    exact (offAt_run hrest hy).2 hnot

theorem joinsWhere_foldBright : JoinsWhere (fun w _ => Closes brightWord w) foldBright :=
  joinsWhere_modifier isModifier_brightWord

theorem joinsWhere_foldBackground : JoinsWhere (fun w _ => Closes backgroundWord w) foldBackground :=
  joinsWhere_modifier isModifier_backgroundWord

/-- Whether a text ends with a modifier that belongs to the word behind it: with `bright` or `bg`. -/
def ClosesAny (w : Text) : Prop := Closes brightWord w ∨ Closes backgroundWord w

instance (w : Text) : Decidable (ClosesAny w) := inferInstanceAs (Decidable (_ ∨ _))

/-- Whether a run between two texts is joined in the normal form: the text before it ends with `bright` or
`bg`, or the text behind it begins with `off`. -/
def Joins (w y : Text) : Prop := ClosesAny w ∨ Opens offWord y

theorem local_joins : Local Joins :=
  ((local_closes isModifier_brightWord).or (local_closes isModifier_backgroundWord)).or
    (local_opens isModifier_offWord)

/-- **The normal form joins words at a modifier:** none of its steps undoes or brings about what another one
looks at. -/
theorem joinsWhere_normalize : JoinsWhere Joins normalize :=
  (joinsWhere_foldBright.andThen joinsWhere_foldBackground (local_closes isModifier_backgroundWord)).andThen
    joinsWhere_foldOff (local_opens isModifier_offWord)

end Expression
end TermStyle
