/-
# Sets of characters

A pattern names sets of characters by their parts: single characters, ranges, and classes such
as the digits.  `CharSet.ofMembers` makes a set of such parts that can be asked quickly: what
is spelled out becomes a search tree of code points, and only the classes are left to be tested
one by one.  With regard to case a set holds what its parts hold (`CharSet.has_ofMembers`).

Without regard to case a part stands for more characters, and a class for the same ones.  The
basic plane, the first 2¹⁶ code points, is the limit of the general rule:

| part of a set | stands for |
| --- | --- |
| a character, alone in its set or in the basic plane | all its variants |
| a character beyond the basic plane, beside others | what has it as small form, so a capital letter stands for nothing |
| a range | its characters and their variants |
| a range that ends beyond the basic plane | besides, the letters whose capital form is spelled with several characters, the first of them in the range |
-/

import TermStyle.Text.Alphanumeric
import TermStyle.Text.Basic
import TermStyle.Text.LetterCase
import TermStyle.Text.Ranges

namespace TermStyle
namespace Pattern

/-- The classes of characters that a pattern can name. -/
inductive Category
  /-- Decimal digits. -/
  | digit
  /-- White space. -/
  | blank
  /-- Letters, numbers and the low line. -/
  | word
  deriving DecidableEq, Repr

/-- Whether a character is of a class. -/
def Category.has : Category → Char → Bool
  | .digit, c => Text.isDecimalDigit c
  | .blank, c => Text.isBlank c
  | .word, c => Text.isWordChar c

/-- One part of a set of characters. -/
inductive Member
  /-- A single character. -/
  | one (c : Char)
  /-- All characters from one to another. -/
  | range (first last : Char)
  /-- The characters of a class, or those outside it. -/
  | kind (category : Category) (negated : Bool)
  deriving DecidableEq, Repr

/-- The span of code points that is one character. -/
def point (c : Char) : Nat × Nat := (c.toNat, c.toNat)

namespace Member

/-- Whether a part of a set holds a character. -/
def has : Member → Char → Bool
  | .one d, c => c == d
  | .range first last, c => first ≤ c && c ≤ last
  | .kind category negated, c => category.has c != negated

/-- Whether a part of a set reaches beyond the basic plane. -/
def isWide : Member → Bool
  | .one c | .range _ c => 0xFFFF < c.toNat
  | .kind _ _ => false

/-- The class that a part of a set is, if it is one. -/
def class? : Member → Option (Category × Bool)
  | .kind category negated => some (category, negated)
  | _ => none

/-- What a part of a set spells out. -/
def spans : Member → List (Nat × Nat)
  | .one c => [point c]
  | .range first last => if first ≤ last then [(first.toNat, last.toNat)] else []
  | .kind _ _ => []

/-- What a part of a set, one of several, spells out without regard to case. -/
def spansInAnyCase (m : Member) : List (Nat × Nat) :=
  match m with
  | .kind _ _ => []
  | .one c =>
    if !m.isWide then (Text.variants c).map point
    else if Text.smallCode c.toNat = c.toNat then (Text.forms c.toNat).map point
    else []
  | .range _ _ =>
    let families := Text.caseFamilies.filter fun family => family.any m.has
    let spelled := if m.isWide then
        Text.spelledCapitals.filter fun letter => m.has (Char.ofNat letter.2)
      else []
    m.spans ++ (families.flatten ++ spelled.flatMap fun letter => Text.forms letter.1).map point

end Member

/-- A set of characters that is ready to be asked. -/
structure CharSet where
  /-- The code points that are spelled out. -/
  listed : Text.RangeTree
  /-- The classes, each with whether the characters outside it are meant. -/
  classes : List (Category × Bool)
  /-- Whether the set consists of all other characters instead. -/
  negated : Bool
  deriving DecidableEq, Repr

namespace CharSet

/-- Whether a set holds a character. -/
def has (s : CharSet) (c : Char) : Bool :=
  (s.listed.has c.toNat || s.classes.any fun k => k.1.has c != k.2) != s.negated

/-- What the parts of a set spell out together, with or without regard to case. -/
def spans (ignoreCase : Bool) (members : List Member) : List (Nat × Nat) :=
  match ignoreCase, members with
  | true, [.one c] => (Text.variants c).map point
  | true, members => members.flatMap Member.spansInAnyCase
  | false, members => members.flatMap Member.spans

/-- The set of the characters that are in one of its parts, or, negated, of those in none. -/
def ofMembers (ignoreCase negated : Bool) (members : List Member) : CharSet :=
  ⟨.ofRanges (.ofSpans (spans ignoreCase members)), members.filterMap Member.class?, negated⟩

/-- A part of a set holds what it spells out and the characters of its class. -/
theorem has_member (m : Member) (c : Char) :
    m.has c = ((m.spans.any fun s => s.1 ≤ c.toNat && c.toNat ≤ s.2) ||
      m.class?.any fun k => k.1.has c != k.2) := by
  cases m with
  | one d =>
    have : c = d ↔ d.toNat ≤ c.toNat ∧ c.toNat ≤ d.toNat :=
      ⟨by rintro rfl; simp, fun h => Char.toNat_inj.1 (by omega)⟩
    rw [Bool.eq_iff_iff]
    simpa [Member.has, Member.spans, Member.class?, point] using this
  | range first last =>
    by_cases hle : first ≤ last
    · simp [Member.has, Member.spans, Member.class?, hle, Char.le_def, UInt32.le_iff_toNat_le]
    · simp [Member.has, Member.spans, Member.class?, hle]
      exact fun h1 => Char.not_le.1 fun h2 => hle (Char.le_trans h1 h2)
  | kind category negated => simp [Member.has, Member.spans, Member.class?]

/-- **With regard to case a set holds what its parts hold,** and a negated one all else. -/
theorem has_ofMembers (negated : Bool) (members : List Member) (c : Char) :
    (ofMembers false negated members).has c = ((members.any fun m => m.has c) != negated) := by
  have hspans : ∀ s ∈ members.flatMap Member.spans, s.1 ≤ s.2 := by
    intro s hs
    obtain ⟨m, _, hs⟩ := List.mem_flatMap.1 hs
    cases m with
    | one c => simp_all [Member.spans, point]
    | range first last =>
      simp only [Member.spans] at hs
      split at hs <;> simp_all [Char.le_def, UInt32.le_iff_toNat_le]
    | kind => simp [Member.spans] at hs
  simp only [has, ofMembers, spans, Text.RangeTree.has_ofSpans hspans]
  congr 1
  clear hspans
  induction members with
  | nil => rfl
  | cons m more ih =>
    simp only [List.flatMap_cons, List.any_append, List.any_cons, has_member m, ← ih,
      List.filterMap_cons]
    cases h : m.class? <;> simp [Bool.or_assoc, Bool.or_left_comm]

example : (ofMembers true false [.one 'k', .one '#']).has 'K' ∧
    (ofMembers true false [.one '𐐀']).has '𐐨' ∧
    (ofMembers true false [.one '𐐨', .one '#']).has '𐐀' ∧
    ¬ (ofMembers true false [.one '𐐀', .one '#']).has '𐐀' := by decide +kernel

end CharSet
end Pattern
end TermStyle
