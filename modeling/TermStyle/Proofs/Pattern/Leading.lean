/-
# What patterns begin with

A pattern is tried at one place of a text after the other.  What stands before the place matters to
anchors only, and of these only to one that is asked before anything is taken.  So there are two things
to know of a node whose matches all begin by taking a character, and never one of some characters
(`Node.startsClearOf`): where one of these follows there is no match (`Node.run_eq_none`), and elsewhere
it does not matter what came before (`Node.run_before`).

| node | clear of characters if |
| --- | --- |
| `one` | its set has none of them |
| `seq` | the first part is |
| `either` | both parts are |
| `group` | its body is |
| `loop` | its body is, and there is a first round |

Hence a text of these characters can stand in front of any other without a change to what is found
there: the scan passes over it (`Pattern.passesOver`).
-/

import TermStyle.Pattern.Match
import TermStyle.Proofs.Text.Lookbehind

namespace TermStyle

namespace Text.Scanner

variable {scan : Scanner}

/-- Whether a scanner passes over a text that stands before another: it finds nothing in it, and in the
other one what it finds there alone. -/
def PassesOver (scan : Scanner) (s t : Text) : Prop :=
  pieces scan (s ++ t) = s.map .plain ++ pieces scan t

theorem standing_of_none {before rest : Text}
    (h : ∀ welcome, scan welcome before rest = none) : scan.standing before rest = (none, none) := by
  rw [standing, h]

theorem piecesFrom_before (h : ∀ welcome before rest, scan welcome before rest = scan welcome [] rest)
    (before t : Text) : piecesFrom scan before 0 t = pieces scan t := by
  refine piecesFrom_congr (fun _ _ => True) (fun {a b} _ welcome rest => ?_) (fun _ _ => trivial)
    trivial 0 t
  rw [h welcome a, h welcome b]

/-- **A scanner passes over characters with which it finds nothing,** if what came before a place makes
no difference to it. -/
theorem passesOver_of_none
    (hbefore : ∀ welcome before rest, scan welcome before rest = scan welcome [] rest) {s : Text}
    (hnone : ∀ c ∈ s, ∀ welcome before rest, scan welcome before (c :: rest) = none) (t : Text) :
    scan.PassesOver s t := by
  unfold PassesOver
  induction s with
  | nil => rfl
  | cons c s ih =>
    have hhere := standing_of_none fun welcome => hnone c (List.mem_cons_self ..) welcome [] (s ++ t)
    rw [List.cons_append, pieces, piecesFrom, hhere]
    dsimp only [emptyPiece]
    rw [List.nil_append, piecesFrom_before hbefore, ih fun d hd => hnone d (List.mem_cons_of_mem _ hd),
      List.map_cons, List.cons_append]

end Text.Scanner

namespace Pattern

/-- Whether every match of a node begins by taking a character, and none with one of the given ones. -/
def Node.startsClearOf (avoided : List Char) : Node CharSet → Bool
  | .empty | .anchor _ => false
  | .one set => avoided.all fun c => !set.has c
  | .seq first _ => first.startsClearOf avoided
  | .either first second => first.startsClearOf avoided && second.startsClearOf avoided
  | .group _ body => body.startsClearOf avoided
  | .loop least _ _ body => least != 0 && body.startsClearOf avoided

section Clear

variable {avoided : List Char}

theorem single?_eq_some {n : Node CharSet} {set : CharSet} (h : n.single? = some set) : n = .one set := by
  cases n with
  | one what => exact congrArg Node.one (Option.some.inj h)
  | empty | anchor | seq | either | group | loop => cases h

/-- **Where a character follows that no match begins with, there is no match.** -/
theorem Node.run_eq_none {n : Node CharSet} (h : n.startsClearOf avoided = true) {p : Place}
    (hp : ∀ c ∈ p.rest.head?, c ∈ avoided) (next : Next) (g : Captures) : n.run next p g = none := by
  have hhas : ∀ {set : CharSet} {c : Char} {rest : Text}, Node.startsClearOf avoided (.one set) = true →
      p.rest = c :: rest → set.has c = false := by
    intro set c rest hset hrest
    have hc : c ∈ avoided := hp c (by rw [hrest]; rfl)
    simpa using List.all_eq_true.1 hset c hc
  induction n generalizing next g with
  | empty | anchor => cases h
  | one set =>
    rw [Node.run, step]
    split
    · rfl
    · rename_i hrest
      rw [hhas h hrest, if_neg Bool.false_ne_true]
  | seq first second ih _ =>
    rw [Node.run]
    exact ih h _ g
  | either first second ih₁ ih₂ =>
    obtain ⟨h₁, h₂⟩ := Bool.and_eq_true_iff.1 h
    rw [Node.run, ih₁ h₁, ih₂ h₂, orElse]
  | group index body ih =>
    rw [Node.run]
    exact ih h _ g
  | loop least most greedy body ih =>
    obtain ⟨hleast, hbody⟩ := Bool.and_eq_true_iff.1 h
    -- There is a first round, and it fails: as a loop over single characters, or with the body.
    obtain ⟨k, rfl⟩ := Nat.exists_eq_succ_of_ne_zero (bne_iff_ne.1 hleast)
    rw [Node.run]
    split
    · rename_i set hsingle
      rw [single?_eq_some hsingle] at hbody
      rw [stretch, Place.advance]
      split
      · rfl
      · rename_i hadvance
        split at hadvance
        · cases hadvance
        · rename_i hrest
          rw [hhas hbody hrest, if_neg Bool.false_ne_true] at hadvance
          cases hadvance
    · rw [rounds]
      exact ih hbody _ g

/-- **What came before a place makes no difference** where every match begins by taking a
character. -/
theorem Node.run_before {n : Node CharSet} (h : n.startsClearOf avoided = true) (taken : Nat)
    (before : Option Char) (rest : Text) (next : Next) (g : Captures) :
    n.run next ⟨taken, before, rest⟩ g = n.run next ⟨taken, none, rest⟩ g := by
  induction n generalizing next g with
  | empty | anchor => cases h
  | one set => rfl
  | seq first second ih _ =>
    rw [Node.run, Node.run]
    exact ih h _ g
  | either first second ih₁ ih₂ =>
    obtain ⟨h₁, h₂⟩ := Bool.and_eq_true_iff.1 h
    rw [Node.run, Node.run, ih₁ h₁, ih₂ h₂]
  | group index body ih =>
    rw [Node.run, Node.run]
    exact ih h _ g
  | loop least most greedy body ih =>
    obtain ⟨hleast, hbody⟩ := Bool.and_eq_true_iff.1 h
    obtain ⟨k, rfl⟩ := Nat.exists_eq_succ_of_ne_zero (bne_iff_ne.1 hleast)
    rw [Node.run, Node.run]
    split
    · rfl
    · rw [rounds]
      exact ih hbody _ g

end Clear

end Pattern

/-- **A pattern passes over characters that none of its matches begin with,** whatever text follows. -/
theorem Pattern.passesOver {pattern : Pattern} {avoided : List Char}
    (h : pattern.root.startsClearOf avoided = true) {s : Text} (hs : ∀ c ∈ s, c ∈ avoided) (t : Text) :
    pattern.scan.PassesOver s t := by
  refine Text.Scanner.passesOver_of_none (fun welcome before rest => ?_)
    (fun c hc welcome before rest => ?_) t
  · rw [Pattern.scan, Pattern.scan, Node.run_before h]
    rfl
  · rw [Pattern.scan]
    split
    · refine Node.run_eq_none h (fun d hd => ?_) _ _
      rw [← Option.some.inj hd]
      exact hs c hc
    · rfl

end TermStyle
