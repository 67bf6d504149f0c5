/-
# Text

Text is the list of its characters, so that everything said about it is said by
recursion on a list.  This module holds what the rest of the library asks of plain
text:

| name | meaning |
| --- | --- |
| `isBlank` | the white space that separates words |
| `words` | the maximal runs without a blank, in order |
| `spaced` | texts joined by one space |
| `decimal` | the decimal digits of a whole number |

`words` is the only splitter of the library: style expressions, palette names and
style keywords are all cut by it.  It splits at every blank (`words_append_blank`), its
words hold none (`not_isBlank_of_mem_words`), and it reads back what `spaced` has joined
(`words_spaced`).
-/

namespace TermStyle

/-- Text, as the list of its characters. -/
abbrev Text := List Char

namespace Text

/-- White space: the ASCII controls from tab to carriage return and from file to unit
separator, the space, and the blanks of the Unicode space classes. -/
def isBlank (c : Char) : Bool :=
  let n := c.toNat
  (0x09 ≤ n && n ≤ 0x0D) || (0x1C ≤ n && n ≤ 0x20) || n == 0x85 || n == 0xA0 || n == 0x1680 ||
    (0x2000 ≤ n && n ≤ 0x200A) || n == 0x2028 || n == 0x2029 || n == 0x202F || n == 0x205F ||
    n == 0x3000

/-- **Core's white space is blank.** -/
theorem isBlank_of_isWhitespace {c : Char} (h : c.isWhitespace = true) : isBlank c = true := by
  simp only [Char.isWhitespace, Bool.or_eq_true, decide_eq_true_eq] at h
  rcases h with ((h | h) | h) | h <;> subst h <;> decide

/-- Whether a word goes on at the beginning of the text. -/
def startsInWord : Text → Bool
  | [] => false
  | c :: _ => !isBlank c

/-- The words of a text: its maximal runs of characters that are not blank, in order. -/
def words : Text → List Text
  | [] => []
  | c :: rest =>
    let later := words rest
    if isBlank c then later
    else if startsInWord rest then (c :: later.headD []) :: later.tail
    else [c] :: later

@[simp] theorem words_nil : words [] = [] := rfl

theorem words_blank {c : Char} (h : isBlank c = true) (rest : Text) :
    words (c :: rest) = words rest := by
  simp [words, h]

/-- **No word holds a blank.** -/
theorem not_isBlank_of_mem_words {t w : Text} (hw : w ∈ words t) :
    w ≠ [] ∧ ∀ c ∈ w, isBlank c = false := by
  induction t generalizing w with
  | nil => simp at hw
  | cons c rest ih =>
    simp only [words] at hw
    split at hw
    · exact ih hw
    · rename_i hc
      have hc : isBlank c = false := by simpa using hc
      split at hw
      · cases hr : words rest with
        | nil => simp_all
        | cons v vs =>
          rw [hr] at hw ih
          simp only [List.headD_cons, List.tail_cons, List.mem_cons] at hw
          rcases hw with rfl | hw
          · refine ⟨by simp, fun d hd => ?_⟩
            rcases List.mem_cons.1 hd with rfl | hd
            · exact hc
            · exact (ih (w := v) (by simp)).2 d hd
          · exact ih (by simp [hw])
      · rcases List.mem_cons.1 hw with rfl | hw
        · simp [hc]
        · exact ih hw

/-- There is a word where the text begins with one. -/
theorem words_ne_nil {t : Text} (h : startsInWord t = true) : words t ≠ [] := by
  cases t with
  | nil => simp [startsInWord] at h
  | cons c rest =>
    have hc : isBlank c = false := by simpa [startsInWord] using h
    simp only [words, hc, Bool.false_eq_true, if_false]
    split <;> simp

/-- **Words split at a blank.** -/
theorem words_append_blank {c : Char} (hc : isBlank c = true) (x y : Text) :
    words (x ++ c :: y) = words x ++ words y := by
  induction x with
  | nil => simp [words_blank hc]
  | cons d x ih =>
    have starts : startsInWord (x ++ c :: y) = startsInWord x := by
      cases x <;> simp [startsInWord, hc]
    simp only [List.cons_append, words, ih, starts]
    split
    · rfl
    · split
      · rename_i hx
        obtain ⟨w, ws, hw⟩ := List.exists_cons_of_ne_nil (words_ne_nil hx)
        simp [hw]
      · rfl

/-- A word by itself is its only word. -/
theorem words_of_word {w : Text} (hne : w ≠ []) (h : ∀ c ∈ w, isBlank c = false) : words w = [w] := by
  induction w with
  | nil => exact absurd rfl hne
  | cons c rest ih =>
    have hc : isBlank c = false := h c (by simp)
    cases rest with
    | nil => simp [words, hc, startsInWord]
    | cons d rest =>
      have hd : isBlank d = false := h d (by simp)
      have ih := ih (by simp) fun e he => h e (by simp [he])
      rw [words, ih]
      simp [hc, startsInWord, hd]

/-- Texts joined by a single space. -/
def spaced (ws : List Text) : Text := List.intercalate [' '] ws

/-- **Words that are joined by a space are read back.** -/
theorem words_spaced {ws : List Text} (h : ∀ w ∈ ws, w ≠ [] ∧ ∀ c ∈ w, isBlank c = false) :
    words (spaced ws) = ws := by
  induction ws with
  | nil => rfl
  | cons w ws ih =>
    have hw := h w (by simp)
    cases ws with
    | nil => simpa [spaced, List.intercalate] using words_of_word hw.1 hw.2
    | cons v vs =>
      have ih := ih fun u hu => h u (by simp [hu])
      have : spaced (w :: v :: vs) = w ++ ' ' :: spaced (v :: vs) := by
        simp [spaced, List.intercalate]
      rw [this, words_append_blank (by decide), ih, words_of_word hw.1 hw.2]
      rfl

/-- The decimal digits of a natural number. -/
def digits (n : Nat) : Text := Nat.toDigits 10 n

/-- The decimal text of a whole number, with a leading minus sign where it is negative. -/
def decimal : Int → Text
  | .ofNat n => digits n
  | .negSucc n => '-' :: digits (n + 1)

example : words " a  bc\t".toList = ["a".toList, "bc".toList] := by decide
example : spaced ["a".toList, "bc".toList] = "a bc".toList := by decide
example : decimal (-25) = "-25".toList := by decide

end Text

end TermStyle
