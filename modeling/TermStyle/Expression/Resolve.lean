/-
# Resolving style expressions

The words of a normal form are tokens.  A token is looked up in the attribute table, then
among the palette's names; then it is read as a true color or as raw parameters:

| token | parameters |
| --- | --- |
| a keyword of the table | the keyword's, or none where it is reserved |
| a palette name | the palette's value, or none where it is empty |
| `fg_#RRGGBB` | `38;2;R;G;B`, in decimal |
| `bg_#RRGGBB` | `48;2;R;G;B`, in decimal |
| `=` and parameter characters | what follows the `=` |

The first token that is none of these makes the whole expression fail.
-/

import TermStyle.Attribute
import TermStyle.Expression.Normal
import TermStyle.Sgr
import TermStyle.Text.Quoted

namespace TermStyle
namespace Expression

/-- Whether a character is a hexadecimal digit. -/
def isHexDigit (c : Char) : Bool :=
  c.isDigit || ('a' ≤ c && c ≤ 'f') || ('A' ≤ c && c ≤ 'F')

/-- The value of a hexadecimal digit. -/
def hexDigitValue (c : Char) : Nat :=
  if c.isDigit then c.toNat - 0x30 else if 'a' ≤ c then c.toNat - 0x57 else c.toNat - 0x37

/-- The number that hexadecimal digits write. -/
def hexValue (ds : Text) : Nat := ds.foldl (fun n c => 16 * n + hexDigitValue c) 0

/-- Finds a word and six hexadecimal digits after it, and marks them two by two. -/
def hexScan (word : Text) : Text.Scanner := .unique fun _ rest =>
  if word.isPrefixOf rest then
    match rest.drop word.length with
    | r₁ :: r₂ :: g₁ :: g₂ :: b₁ :: b₂ :: _ =>
      if [r₁, r₂, g₁, g₂, b₁, b₂].all isHexDigit then
        some ⟨word.length + 6, [some [r₁, r₂], some [g₁, g₂], some [b₁, b₂]]⟩
      else none
    | _ => none
  else none

/-- What a true foreground color begins with. -/
def foregroundWord : Text := "fg_#".toList

/-- What a true background color begins with. -/
def backgroundHexWord : Text := "bg_#".toList

/-- Finds raw parameters: `=` and at least one parameter character, which are marked. -/
def rawScan : Text.Scanner := .unique fun _ rest =>
  match rest with
  | '=' :: body =>
    let params := body.takeWhile Sgr.isParameterChar
    if params.isEmpty then none else some ⟨params.length + 1, [some params]⟩
  | _ => none

/-- The parameters of a true color, from its marked digits. -/
def trueColor (selector : Nat) (parts : List (Option Text)) : Text :=
  List.intercalate [';'] (Text.digits selector :: ['2'] ::
    parts.map fun part => Text.digits (hexValue (part.getD [])))

/-- What a token stands for: parameters, or deliberately none; nothing where it is unknown. -/
def resolveToken (table : AttributeTable) (palette : OrderedMap Text Text) (token : Text) :
    Option (Option Text) :=
  match table.get? token with
  | some parameter => some (parameter.map Parameter.text)
  | none =>
    match palette.get? token with
    | some value => some (if value.isEmpty then none else some value)
    | none =>
      match Text.matchWhole (hexScan foregroundWord) token with
      | some parts => some (some (trueColor 38 parts))
      | none =>
        match Text.matchWhole (hexScan backgroundHexWord) token with
        | some parts => some (some (trueColor 48 parts))
        | none => (Text.matchWhole rawScan token).map fun parts => some ((parts.headD none).getD [])

/-- The parameters of a list of tokens, in order, or the first token that is unknown. -/
def resolveTokens (table : AttributeTable) (palette : OrderedMap Text Text) :
    List Text → Except Text (List Text)
  | [] => .ok []
  | token :: more =>
    match resolveToken table palette token with
    | none => .error token
    | some parameter =>
      match resolveTokens table palette more with
      | .error unknown => .error unknown
      | .ok parameters => .ok (parameter.toList ++ parameters)

/-- An expression with a token that is unknown. -/
structure Unresolvable where
  /-- The first unknown token of the normal form. -/
  token : Text
  /-- The expression as it was given. -/
  expression : Text
  deriving DecidableEq, Repr

/-- What is said of an unresolvable expression. -/
def Unresolvable.message (u : Unresolvable) : Text :=
  "invalid token ".toList ++ Text.quoted u.token ++ " in style expression ".toList ++
    Text.quoted u.expression

/-- The tokens of an expression: the words of its normal form. -/
def tokens (e : Text) : List Text := Text.words (normalize e)

/-- The parameters of an expression, in the order of its tokens. -/
def resolveParams (table : AttributeTable) (palette : OrderedMap Text Text) (e : Text) :
    Except Unresolvable (List Text) :=
  match resolveTokens table palette (tokens e) with
  | .ok parameters => .ok parameters
  | .error token => .error ⟨token, e⟩

/-- The sequence of an expression under the built-in attributes. -/
def resolve (palette : OrderedMap Text Text) (e : Text) : Except Unresolvable Text :=
  match resolveParams Attribute.table palette e with
  | .ok parameters => .ok (Sgr.sequence parameters)
  | .error u => .error u

/-- An expression resolves to the sequence of its parameters. -/
theorem resolve_eq_ok_iff {palette : OrderedMap Text Text} {e sequence : Text} :
    resolve palette e = .ok sequence ↔
      ∃ parameters, resolveParams Attribute.table palette e = .ok parameters ∧
        sequence = Sgr.sequence parameters := by
  unfold resolve
  cases resolveParams Attribute.table palette e with
  | error u => simp
  | ok parameters => simp [eq_comm]

example : resolveParams [Attribute.plain "bright_fg_red" 91, Attribute.reserved "on"]
    [("warn".toList, "1;33".toList)] "bright fg_red on warn fg_#0aFF10 =4:3".toList =
    .ok ["91".toList, "1;33".toList, "38;2;10;255;16".toList, "4:3".toList] := rfl
example : resolveParams [Attribute.plain "dim" 2] [] "dim Dim".toList =
    .error ⟨"Dim".toList, "dim Dim".toList⟩ := rfl

end Expression
end TermStyle
