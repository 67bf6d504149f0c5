/-
# The grammar of tokens

Under a palette, a token belongs to the grammar of expressions if it is of one of these kinds, and the first
kind that it is of says what it stands for (`Denotes`):

| kind | form | stands for |
| --- | --- | --- |
| keyword | it is in the attribute table | its parameter, or nothing where it has none |
| name | it is in the palette | its value, or nothing where that is empty |
| true foreground color | `fg_#` and six hexadecimal digits | `38;2;` and the three numbers, in decimal |
| true background color | `bg_#` and six hexadecimal digits | `48;2;` and the three numbers, in decimal |
| raw parameters | `=` and digits, colons or semicolons | what follows the `=` |

The last three say themselves what they stand for (`Literal`), whatever the palette, and no token is of two of
them.  A keyword goes before a name and a name before these, so a name may look like a color.

The grammar is said here without the scans that read tokens, and a token resolves exactly if it belongs to it
(`resolveToken_eq_some_iff`).  An expression resolves if all of its tokens do, to what they stand for, in order;
otherwise it fails with the first token that does not belong to the grammar (`resolveParams_grammar`).
-/

import TermStyle.Proofs.Expression.Literals
import TermStyle.Proofs.Expression.Unknown
import TermStyle.Proofs.Palette.Arrivals

namespace TermStyle
namespace Expression

set_option maxRecDepth 4000

/-- Whether a character is the hexadecimal digit of a number, small or capital. -/
def HexDigit (c : Char) (d : Nat) : Prop := d < 16 ∧ (c = Nat.digitChar d ∨ c = (Nat.digitChar d).toUpper)

instance (c : Char) (d : Nat) : Decidable (HexDigit c d) := inferInstanceAs (Decidable (_ ∧ _))

/-- Whether two characters write a number to the base of 16. -/
def HexPair (pair : Text) (n : Nat) : Prop :=
  ∃ high low h l, pair = [high, low] ∧ HexDigit high h ∧ HexDigit low l ∧ n = 16 * h + l

example : HexPair "fA".toList 250 := ⟨'f', 'A', 15, 10, rfl, by decide, by decide, rfl⟩

/-- Whether six characters write three numbers to the base of 16, two characters each. -/
def HexColor (digits : Text) (r g b : Nat) : Prop :=
  ∃ red green blue, digits = red ++ green ++ blue ∧ HexPair red r ∧ HexPair green g ∧ HexPair blue b

/-- Three numbers in decimal, with semicolons between them. -/
def decimals (r g b : Nat) : Text := Text.digits r ++ ';' :: Text.digits g ++ ';' :: Text.digits b

/-- A token that says itself what it stands for, with the parameters. -/
inductive Literal : Text → Text → Prop
  /-- A true foreground color. -/
  | foreground {digits : Text} {r g b : Nat} (h : HexColor digits r g b) :
      Literal ("fg_#".toList ++ digits) ("38;2;".toList ++ decimals r g b)
  /-- A true background color. -/
  | background {digits : Text} {r g b : Nat} (h : HexColor digits r g b) :
      Literal ("bg_#".toList ++ digits) ("48;2;".toList ++ decimals r g b)
  /-- Raw parameters. -/
  | raw {params : Text} (hne : params ≠ []) (hchars : ∀ c ∈ params, c.isDigit ∨ c = ':' ∨ c = ';') :
      Literal ('=' :: params) params

/-- Whether a token is of one of the five kinds. -/
def InGrammar (palette : Palette) (token : Text) : Prop :=
  token ∈ Attribute.table.keys ∨ token ∈ palette.keys ∨ ∃ params, Literal token params

/-- What a token stands for, by the first kind that it is of: parameters, or deliberately none. -/
inductive Denotes (palette : Palette) (token : Text) : Option Text → Prop
  /-- A keyword stands for its parameter, if it has one. -/
  | keyword {parameter : Option Parameter} (h : Attribute.table.get? token = some parameter) :
      Denotes palette token (parameter.map Parameter.text)
  /-- A name stands for its value. -/
  | name {value : Text} (hfree : token ∉ Attribute.table.keys) (h : palette.get? token = some value)
      (hon : value ≠ []) : Denotes palette token (some value)
  /-- A name without a value stands for nothing. -/
  | switchedOff (hfree : token ∉ Attribute.table.keys) (h : palette.get? token = some []) :
      Denotes palette token none
  /-- Any other token stands for what it says. -/
  | literal {params : Text} (hfree : token ∉ Attribute.table.keys) (hunnamed : token ∉ palette.keys)
      (h : Literal token params) : Denotes palette token (some params)

section Hex

theorem toNat_lt_of_isHexDigit {c : Char} (h : isHexDigit c = true) : c.toNat < 128 := by
  simp only [isHexDigit, Bool.or_eq_true, Bool.and_eq_true, decide_eq_true_eq] at h
  rcases h with (h | ⟨-, h⟩) | ⟨-, h⟩
  · exact Nat.lt_of_le_of_lt (Char.isDigit_iff_toNat.1 h).2 (by decide)
  · exact Nat.lt_of_le_of_lt (UInt32.le_iff_toNat_le.1 (Char.le_def.1 h)) (by decide)
  · exact Nat.lt_of_le_of_lt (UInt32.le_iff_toNat_le.1 (Char.le_def.1 h)) (by decide)

/-- **A hexadecimal digit and its value** are what the number says. -/
theorem hexDigit_iff {c : Char} {d : Nat} : HexDigit c d ↔ isHexDigit c = true ∧ hexDigitValue c = d := by
  constructor
  · rintro ⟨hd, hc⟩
    have hall : ∀ d < 16,
        (isHexDigit (Nat.digitChar d) = true ∧ hexDigitValue (Nat.digitChar d) = d) ∧
          isHexDigit (Nat.digitChar d).toUpper = true ∧ hexDigitValue (Nat.digitChar d).toUpper = d := by
      decide
    obtain ⟨hsmall, hcapital⟩ := hall d hd
    rcases hc with rfl | rfl
    · exact hsmall
    · exact hcapital
  · rintro ⟨hc, rfl⟩
    have hall : ∀ n < 128, isHexDigit (Char.ofNat n) = true →
        HexDigit (Char.ofNat n) (hexDigitValue (Char.ofNat n)) := by decide
    have hdigit := hall c.toNat (toNat_lt_of_isHexDigit hc)
    rw [Char.ofNat_toNat] at hdigit
    exact hdigit hc

theorem hexPair_iff {high low : Char} {n : Nat} :
    HexPair [high, low] n ↔ (isHexDigit high = true ∧ isHexDigit low = true) ∧ n = hexValue [high, low] := by
  have hvalue : hexValue [high, low] = 16 * hexDigitValue high + hexDigitValue low := by
    simp [hexValue]
  constructor
  · rintro ⟨_, _, h, l, hpair, hhigh, hlow, rfl⟩
    cases hpair
    obtain ⟨hhigh, hh⟩ := hexDigit_iff.1 hhigh
    obtain ⟨hlow, hl⟩ := hexDigit_iff.1 hlow
    exact ⟨⟨hhigh, hlow⟩, by rw [hvalue, hh, hl]⟩
  · rintro ⟨⟨hhigh, hlow⟩, rfl⟩
    exact ⟨high, low, _, _, rfl, hexDigit_iff.2 ⟨hhigh, rfl⟩, hexDigit_iff.2 ⟨hlow, rfl⟩, hvalue⟩

/-- **A scan for a color finds six hexadecimal digits,** and what is made of them are the three numbers. -/
theorem exists_matchWhole_hexScan_iff {word token : Text} {selector : Nat} {params : Text} :
    (∃ parts, Text.matchWhole (hexScan word) token = some parts ∧ params = trueColor selector parts) ↔
      ∃ digits r g b, token = word ++ digits ∧ HexColor digits r g b ∧
        params = Text.digits selector ++ ";2;".toList ++ decimals r g b := by
  have hparams : ∀ {r₁ r₂ g₁ g₂ b₁ b₂ : Char},
      trueColor selector [some [r₁, r₂], some [g₁, g₂], some [b₁, b₂]] =
        Text.digits selector ++ ";2;".toList ++
          decimals (hexValue [r₁, r₂]) (hexValue [g₁, g₂]) (hexValue [b₁, b₂]) := by
    intro r₁ r₂ g₁ g₂ b₁ b₂
    simp [trueColor, decimals, List.intercalate]
  constructor
  · rintro ⟨parts, hparts, rfl⟩
    obtain ⟨r₁, r₂, g₁, g₂, b₁, b₂, rfl, hdigits, rfl⟩ := matchWhole_hexScan_eq_some_iff.1 hparts
    simp only [List.forall_mem_cons] at hdigits
    obtain ⟨hr₁, hr₂, hg₁, hg₂, hb₁, hb₂, -⟩ := hdigits
    exact ⟨_, _, _, _, rfl, ⟨[r₁, r₂], [g₁, g₂], [b₁, b₂], rfl, hexPair_iff.2 ⟨⟨hr₁, hr₂⟩, rfl⟩,
      hexPair_iff.2 ⟨⟨hg₁, hg₂⟩, rfl⟩, hexPair_iff.2 ⟨⟨hb₁, hb₂⟩, rfl⟩⟩, hparams⟩
  · rintro ⟨_, r, g, b, rfl, ⟨_, _, _, rfl, hred, hgreen, hblue⟩, rfl⟩
    obtain ⟨r₁, r₂, -, -, rfl, -⟩ := id hred
    obtain ⟨g₁, g₂, -, -, rfl, -⟩ := id hgreen
    obtain ⟨b₁, b₂, -, -, rfl, -⟩ := id hblue
    obtain ⟨⟨hr₁, hr₂⟩, rfl⟩ := hexPair_iff.1 hred
    obtain ⟨⟨hg₁, hg₂⟩, rfl⟩ := hexPair_iff.1 hgreen
    obtain ⟨⟨hb₁, hb₂⟩, rfl⟩ := hexPair_iff.1 hblue
    refine ⟨_, matchWhole_hexScan_eq_some_iff.2 ⟨r₁, r₂, g₁, g₂, b₁, b₂, rfl, ?_, rfl⟩, hparams.symm⟩
    simp only [List.forall_mem_cons, List.not_mem_nil, false_implies, implies_true, and_true]
    exact ⟨hr₁, hr₂, hg₁, hg₂, hb₁, hb₂⟩

end Hex

section Literal

variable {token params : Text}

/-- **A token says itself what it stands for** exactly if one of the three scans finds it. -/
theorem literal_iff :
    Literal token params ↔
      (∃ parts, Text.matchWhole (hexScan foregroundWord) token = some parts ∧ params = trueColor 38 parts) ∨
      (∃ parts, Text.matchWhole (hexScan backgroundHexWord) token = some parts ∧ params = trueColor 48 parts) ∨
      ∃ parts, Text.matchWhole rawScan token = some parts ∧ params = (parts.headD none).getD [] := by
  rw [exists_matchWhole_hexScan_iff, exists_matchWhole_hexScan_iff]
  constructor
  · rintro (h | h | ⟨hne, hchars⟩)
    · exact .inl ⟨_, _, _, _, rfl, h, rfl⟩
    · exact .inr (.inl ⟨_, _, _, _, rfl, h, rfl⟩)
    · have hparams : Sgr.IsParameter params := ⟨hne, fun c hc => Palette.isParameterChar_iff.2 (hchars c hc)⟩
      exact .inr (.inr ⟨_, matchWhole_rawScan_eq_some_iff.2 ⟨params, rfl, hparams, rfl⟩, rfl⟩)
  · rintro (⟨_, _, _, _, rfl, h, rfl⟩ | ⟨_, _, _, _, rfl, h, rfl⟩ | ⟨parts, hparts, rfl⟩)
    · exact .foreground h
    · exact .background h
    · obtain ⟨params, rfl, ⟨hne, hchars⟩, rfl⟩ := matchWhole_rawScan_eq_some_iff.1 hparts
      exact .raw hne fun c hc => Palette.isParameterChar_iff.1 (hchars c hc)

/-- A scan for a color does not find what begins differently. -/
theorem matchWhole_hexScan_eq_none {word : Text} {initial : Char} (htoken : token.head? = some initial)
    (hne : word.head? ≠ some initial) (hword : word ≠ []) : Text.matchWhole (hexScan word) token = none := by
  refine Option.eq_none_iff_forall_ne_some.2 fun parts hparts => hne ?_
  obtain ⟨_, _, _, _, _, _, rfl, -⟩ := matchWhole_hexScan_eq_some_iff.1 hparts
  rw [← htoken, List.head?_append_of_ne_nil _ hword]

/-- **A token that is no keyword and no name** stands for what it says. -/
theorem resolveToken_of_unnamed {palette : Palette} {meaning : Option Text}
    (hfree : Attribute.table.get? token = none) (hunnamed : palette.get? token = none) :
    resolveToken Attribute.table palette token = some meaning ↔
      ∃ params, Literal token params ∧ meaning = some params := by
  simp only [literal_iff, resolveToken, hfree, hunnamed]
  constructor
  · intro h
    split at h
    · cases h
      exact ⟨_, .inl ⟨_, ‹_›, rfl⟩, rfl⟩
    · split at h
      · cases h
        exact ⟨_, .inr (.inl ⟨_, ‹_›, rfl⟩), rfl⟩
      · obtain ⟨parts, hparts, rfl⟩ := Option.map_eq_some_iff.1 h
        exact ⟨_, .inr (.inr ⟨parts, hparts, rfl⟩), rfl⟩
  · -- What is found by one scan begins differently from what the scans before it look for.
    rintro ⟨params, ⟨parts, hparts, rfl⟩ | ⟨parts, hparts, rfl⟩ | ⟨parts, hparts, rfl⟩, rfl⟩
    · simp only [hparts]
    · have hother : Text.matchWhole (hexScan foregroundWord) token = none := by
        obtain ⟨_, _, _, _, _, _, rfl, -⟩ := matchWhole_hexScan_eq_some_iff.1 hparts
        exact matchWhole_hexScan_eq_none rfl (by decide) (by decide)
      simp only [hother, hparts]
    · have hothers : Text.matchWhole (hexScan foregroundWord) token = none ∧
          Text.matchWhole (hexScan backgroundHexWord) token = none := by
        obtain ⟨_, rfl, -⟩ := matchWhole_rawScan_eq_some_iff.1 hparts
        exact ⟨matchWhole_hexScan_eq_none rfl (by decide) (by decide),
          matchWhole_hexScan_eq_none rfl (by decide) (by decide)⟩
      simp only [hothers, hparts, Option.map_some]

end Literal

variable {palette : Palette} {token : Text}

/-- **A token resolves to what it stands for,** and to nothing else. -/
theorem resolveToken_eq_some_iff {meaning : Option Text} :
    resolveToken Attribute.table palette token = some meaning ↔ Denotes palette token meaning := by
  constructor
  · intro h
    cases hkeyword : Attribute.table.get? token with
    | some parameter =>
      simp only [resolveToken, hkeyword] at h
      cases h
      exact .keyword hkeyword
    | none =>
      have hfree := OrderedMap.get?_eq_none_iff.1 hkeyword
      cases hname : palette.get? token with
      | some value =>
        simp only [resolveToken, hkeyword, hname] at h
        cases h
        cases value with
        | nil => exact .switchedOff hfree hname
        | cons c value => exact .name hfree hname (List.cons_ne_nil c value)
      | none =>
        obtain ⟨params, hliteral, rfl⟩ := (resolveToken_of_unnamed hkeyword hname).1 h
        exact .literal hfree (OrderedMap.get?_eq_none_iff.1 hname) hliteral
  · intro h
    cases h with
    | keyword h => simp only [resolveToken, h]
    | name hfree h hon =>
      simp only [resolveToken, OrderedMap.get?_eq_none_iff.2 hfree, h, if_neg (mt List.isEmpty_iff.1 hon)]
    | switchedOff hfree h =>
      simp only [resolveToken, OrderedMap.get?_eq_none_iff.2 hfree, h]
      rfl
    | literal hfree hunnamed h =>
      exact (resolveToken_of_unnamed (OrderedMap.get?_eq_none_iff.2 hfree)
        (OrderedMap.get?_eq_none_iff.2 hunnamed)).2 ⟨_, h, rfl⟩

/-- A token stands for something exactly if it is of one of the kinds. -/
theorem exists_denotes_iff : (∃ meaning, Denotes palette token meaning) ↔ InGrammar palette token := by
  constructor
  · rintro ⟨meaning, h⟩
    cases h with
    | keyword h => exact .inl (List.mem_map.2 ⟨_, OrderedMap.mem_of_get? h, rfl⟩)
    | name hfree h | switchedOff hfree h =>
      exact .inr (.inl (List.mem_map.2 ⟨_, OrderedMap.mem_of_get? h, rfl⟩))
    | literal hfree hunnamed h => exact .inr (.inr ⟨_, h⟩)
  · intro h
    cases hkeyword : Attribute.table.get? token with
    | some parameter => exact ⟨_, .keyword hkeyword⟩
    | none =>
      have hfree := OrderedMap.get?_eq_none_iff.1 hkeyword
      cases hname : palette.get? token with
      | some value =>
        by_cases hon : value = []
        · subst hon
          exact ⟨_, .switchedOff hfree hname⟩
        · exact ⟨_, .name hfree hname hon⟩
      | none =>
        have hunnamed := OrderedMap.get?_eq_none_iff.1 hname
        obtain ⟨params, hliteral⟩ := (h.resolve_left hfree).resolve_left hunnamed
        exact ⟨_, .literal hfree hunnamed hliteral⟩

/-- **A token has a meaning exactly if it belongs to the grammar.** -/
theorem resolveToken_ne_none_iff :
    resolveToken Attribute.table palette token ≠ none ↔ InGrammar palette token := by
  rw [Option.ne_none_iff_exists', ← exists_denotes_iff]
  exact exists_congr fun _ => resolveToken_eq_some_iff

/-- **Tokens resolve to what they stand for,** in order, those left out that stand for nothing. -/
theorem resolveTokens_eq_ok_iff_denotes {ts parameters : List Text} :
    resolveTokens Attribute.table palette ts = .ok parameters ↔
      ∃ meanings, List.Forall₂ (Denotes palette) ts meanings ∧ parameters = meanings.reduceOption := by
  induction ts generalizing parameters with
  | nil =>
    constructor
    · intro h
      cases h
      exact ⟨[], .nil, rfl⟩
    · rintro ⟨_, hmeanings, rfl⟩
      cases hmeanings
      rfl
  | cons token more ih =>
    constructor
    · intro h
      rw [resolveTokens] at h
      split at h
      · cases h
      · rename_i meaning hmeaning
        split at h
        · cases h
        · rename_i later hlater
          cases h
          obtain ⟨meanings, hmore, rfl⟩ := ih.1 hlater
          refine ⟨meaning :: meanings, .cons (resolveToken_eq_some_iff.1 hmeaning) hmore, ?_⟩
          cases meaning <;> rfl
    · rintro ⟨_, hmeanings, rfl⟩
      cases hmeanings with
      | @cons _ meaning _ meanings hmeaning hmore =>
        rw [resolveTokens, resolveToken_eq_some_iff.2 hmeaning, ih.2 ⟨meanings, hmore, rfl⟩]
        cases meaning <;> rfl

/-- **What expressions resolve.**  An expression resolves exactly if every token of its normal form is a
keyword, a name of the palette, `fg_#` or `bg_#` with six hexadecimal digits, or `=` with digits, colons and
semicolons.  The parameters are what the tokens stand for, in order, without those that stand for nothing.
Otherwise the expression fails with the first token that is none of these, and with itself as it was given. -/
theorem resolveParams_grammar (palette : Palette) (e : Text) :
    ((∃ parameters, resolveParams Attribute.table palette e = .ok parameters) ↔
      ∀ token ∈ Text.words (normalize e), InGrammar palette token) ∧
    (∀ parameters, resolveParams Attribute.table palette e = .ok parameters ↔
      ∃ meanings, List.Forall₂ (Denotes palette) (Text.words (normalize e)) meanings ∧
        parameters = meanings.reduceOption) ∧
    ∀ u : Unresolvable, resolveParams Attribute.table palette e = .error u ↔
      u.expression = e ∧ ∃ before after, Text.words (normalize e) = before ++ u.token :: after ∧
        (∀ token ∈ before, InGrammar palette token) ∧ ¬ InGrammar palette u.token := by
  refine ⟨?_, fun parameters => ?_, fun u => ?_⟩
  · simp only [resolveParams_eq_ok_iff, resolveTokens_eq_ok_iff, ← resolveToken_ne_none_iff]
    exact ⟨fun ⟨_, hall, _⟩ => hall, fun hall => ⟨_, hall, rfl⟩⟩
  · rw [resolveParams_eq_ok_iff, resolveTokens_eq_ok_iff_denotes, tokens]
  · rw [resolveParams_eq_error_iff, resolveTokens_eq_error_iff, and_comm, tokens]
    simp only [← resolveToken_ne_none_iff, not_not]

end Expression
end TermStyle
