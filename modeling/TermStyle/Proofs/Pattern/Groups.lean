/-
# The groups of a hit

A pattern matches by trying, and has what comes after it as an argument.  Whatever is found in the end was
found by this last step, at some place and with some groups (`Matcher.Forwards`): the steps in between
choose where it is asked, and can fail, but have nothing of their own to find.

| matcher | why it forwards |
| --- | --- |
| `step` | it asks one place on |
| `rounds`, `further` | each round forwards, and the last one asks what comes after |
| `stretch` | it asks one of the places that it has listed |
| a node | by recursion on the tree (`Node.run_forwards`) |

What comes last in a scan lists the groups of the pattern, one by one, whether they took part or not.  So
every hit has as many of them as the pattern (`ColorTag.length_groups_of_mem_pieces`): where it has a group,
group 1 can be asked for.
-/

import TermStyle.ColorTag

namespace TermStyle

namespace Text

/-- The empty hit at a place, and the one that the scan goes on from, are answers of the scanner. -/
theorem Scanner.exists_of_standing {scan : Scanner} {before rest : Text} :
    (∀ groups, (scan.standing before rest).1 = some groups →
        ∃ welcome length, scan welcome before rest = some ⟨length, groups⟩) ∧
      ∀ hit, (scan.standing before rest).2 = some hit → ∃ welcome, scan welcome before rest = some hit := by
  unfold Scanner.standing
  split
  · rename_i found hfound
    refine ⟨fun groups hgroups => ?_, fun hit hhit => ⟨_, hhit⟩⟩
    rw [← Option.some.inj hgroups]
    exact ⟨_, 0, hfound⟩
  · refine ⟨fun groups hgroups => ?_, fun hit hhit => ⟨_, hhit⟩⟩
    cases hgroups

/-- **Every hit among the pieces is an answer of the scanner** at some place. -/
theorem exists_scan_of_mem_piecesFrom {scan : Scanner} {before : Text} {skip : Nat} {t matched : Text}
    {groups : List (Option Text)} (h : .hit matched groups ∈ piecesFrom scan before skip t) :
    ∃ welcome place rest length, scan welcome place rest = some ⟨length, groups⟩ := by
  -- The empty hit at a place, if there is one.
  have hempty : ∀ place rest, .hit matched groups ∈ emptyPiece (scan.standing place rest).1 →
      ∃ welcome place rest length, scan welcome place rest = some ⟨length, groups⟩ := by
    intro place rest hmem
    cases hfirst : (scan.standing place rest).1 with
    | none =>
      rw [hfirst] at hmem
      exact absurd hmem List.not_mem_nil
    | some found =>
      rw [hfirst] at hmem
      obtain ⟨-, rfl⟩ := Piece.hit.inj (List.mem_singleton.1 hmem)
      obtain ⟨welcome, length, hscan⟩ := Scanner.exists_of_standing.1 _ hfirst
      exact ⟨welcome, place, rest, length, hscan⟩
  induction t generalizing before skip with
  | nil => cases skip <;> exact hempty _ _ h
  | cons c rest ih =>
    cases skip with
    | succ skip => exact ih h
    | zero =>
      rcases List.mem_append.1 h with hfirst | hlater
      · exact hempty _ _ hfirst
      · split at hlater
        · rename_i n found hfound
          rcases List.mem_cons.1 hlater with hhere | hafter
          · obtain ⟨-, rfl⟩ := Piece.hit.inj hhere
            obtain ⟨welcome, hscan⟩ := Scanner.exists_of_standing.2 _ hfound
            exact ⟨welcome, _, _, _, hscan⟩
          · exact ih hafter
        · rcases List.mem_cons.1 hlater with hhere | hafter
          · cases hhere
          · exact ih hafter

end Text

namespace Pattern

/-- Whether all that a matcher finds is found by what comes after it. -/
def Matcher.Forwards (m : Matcher) : Prop :=
  ∀ {next : Next} {p : Place} {g : Captures} {h : Text.Hit}, m next p g = some h → ∃ q k, next q k = some h

theorem step_forwards (welcome : Char → Bool) : (step welcome).Forwards := by
  intro next p g h hrun
  unfold step at hrun
  split at hrun
  · cases hrun
  · split at hrun
    · exact ⟨_, _, hrun⟩
    · cases hrun

theorem orElse_eq_some {first second : Option Text.Hit} {h : Text.Hit} (hor : orElse first second = some h) :
    first = some h ∨ second = some h := by
  unfold orElse at hor
  split at hor
  · exact .inl hor
  · exact .inr hor

section Rounds

variable {round : Matcher} (hround : round.Forwards)
include hround

theorem rounds_forwards (n : Nat) : (rounds round n).Forwards := by
  induction n with
  | zero => exact fun hrun => ⟨_, _, hrun⟩
  | succ n ih =>
    intro next p g h hrun
    obtain ⟨q, k, hlater⟩ := hround hrun
    exact ih hlater

theorem further_forwards (greedy : Bool) (clock : Text) (limit last : Option Nat) :
    Matcher.Forwards fun next => further round greedy next clock limit last := by
  induction clock generalizing limit last with
  | nil => exact fun hrun => ⟨_, _, hrun⟩
  | cons tick clock ih =>
    intro next p g h hrun
    -- One round more is a round and what comes after it; going on is what comes next itself.
    have hmore : ∀ place, round (further round greedy next clock (spend limit) place) p g = some h →
        ∃ q k, next q k = some h := by
      intro place hfound
      obtain ⟨q, k, hlater⟩ := hround hfound
      exact ih _ _ hlater
    simp only [further] at hrun
    split at hrun
    · exact ⟨_, _, hrun⟩
    · split at hrun
      · rcases orElse_eq_some hrun with hfound | hnext
        · exact hmore _ hfound
        · exact ⟨_, _, hnext⟩
      · rcases orElse_eq_some hrun with hnext | hfound
        · exact ⟨_, _, hnext⟩
        · exact hmore _ hfound

end Rounds

theorem exists_of_nearest {w : Char → Bool} {next : Next} {g : Captures} {rest : Text} {limit : Option Nat}
    {taken : Nat} {before : Option Char} {h : Text.Hit}
    (hrun : nearest w next g rest limit taken before = some h) : ∃ q k, next q k = some h := by
  induction rest generalizing limit taken before with
  | nil => exact ⟨_, _, hrun⟩
  | cons c rest ih =>
    rw [nearest] at hrun
    split at hrun
    · rename_i hhere
      exact ⟨_, _, hhere.trans hrun⟩
    · split at hrun
      · exact ih hrun
      · cases hrun

theorem stretch_forwards (w : Char → Bool) (least : Nat) (limit : Option Nat) (greedy : Bool) :
    (stretch w least limit greedy).Forwards := by
  intro next p g h hrun
  unfold stretch at hrun
  split at hrun
  · cases hrun
  · split at hrun
    · obtain ⟨q, -, hfound⟩ := List.exists_of_findSome?_eq_some hrun
      exact ⟨q, g, hfound⟩
    · exact exists_of_nearest hrun

/-- **A node finds what comes after it finds,** at a place and with groups that it has chosen. -/
theorem Node.run_forwards (n : Node CharSet) : Matcher.Forwards n.run := by
  induction n with
  | empty => exact fun hrun => ⟨_, _, hrun⟩
  | one set => exact step_forwards set.has
  | anchor a =>
    intro next p g h hrun
    rw [Node.run] at hrun
    split at hrun
    · exact ⟨_, _, hrun⟩
    · cases hrun
  | seq first second ih₁ ih₂ =>
    intro next p g h hrun
    obtain ⟨q, k, hsecond⟩ := ih₁ hrun
    exact ih₂ hsecond
  | either first second ih₁ ih₂ =>
    intro next p g h hrun
    rcases orElse_eq_some hrun with hfirst | hsecond
    · exact ih₁ hfirst
    · exact ih₂ hsecond
  | group index body ih =>
    intro next p g h hrun
    obtain ⟨q, k, hnext⟩ := ih hrun
    exact ⟨q, _, hnext⟩
  | loop least most greedy body ih =>
    intro next p g h hrun
    rw [Node.run] at hrun
    split at hrun
    · exact stretch_forwards _ _ _ _ hrun
    · obtain ⟨q, k, hlater⟩ := rounds_forwards ih least hrun
      exact further_forwards ih greedy _ _ _ hlater

theorem length_groups_of_scan {pattern : Pattern} {welcome : Nat → Bool} {before rest : Text}
    {h : Text.Hit} (hscan : pattern.scan welcome before rest = some h) :
    h.groups.length = pattern.groups := by
  unfold Pattern.scan at hscan
  split at hscan
  · obtain ⟨q, k, hlast⟩ := pattern.root.run_forwards hscan
    split at hlast
    · rw [← Option.some.inj hlast, Captures.texts, List.length_map, List.length_range]
    · cases hlast
  · cases hscan

end Pattern

/-- **Every hit has the groups of the tag pattern,** those that took no part included. -/
theorem ColorTag.length_groups_of_mem_pieces {tag : ColorTag} {t matched : Text}
    {groups : List (Option Text)} (h : .hit matched groups ∈ Text.pieces tag.scan t) :
    groups.length = tag.groups := by
  obtain ⟨welcome, before, rest, length, hscan⟩ := Text.exists_scan_of_mem_piecesFrom h
  cases tag with
  | read p => exact Pattern.length_groups_of_scan hscan
  | foreign p => exact p.length_groups hscan
  | binary p => cases hscan

end TermStyle
