/-
# Inline tags

An inline tag is a place in a text that names a style expression; group 1 of its pattern is the
expression.  The standard form is a dollar sign and the expression in braces.  Another form can
be given as a written pattern or as a compiled one, and must have a group.

| compiled pattern | what it finds in a text |
| --- | --- |
| `read` | what its tree says |
| `foreign` | anything, for its form is none that the reader knows |
| `binary` | nothing: it is a pattern over bytes, and no text can be searched with it |

The last kind is accepted like the others, and it is only found out when a text is searched.
-/

import TermStyle.Datum
import TermStyle.Pattern.Match
import TermStyle.Pattern.Reader

namespace TermStyle
namespace ColorTag

/-- The written form of the standard pattern. -/
def standardSource : Text := "\\$\\\x7b([^\x7b\x7d]*)\\\x7d".toList

/-- The set of a single character. -/
def oneChar (c : Char) : Pattern.CharSet := .ofMembers false false [.one c]

/-- The set of all characters but braces. -/
def innerChars : Pattern.CharSet := .ofMembers false true [.one '\x7b', .one '\x7d']

/-- The pattern of a dollar sign and an expression in braces. -/
def standardPattern : Pattern where
  source := standardSource
  options := {}
  root := Pattern.Node.sequence [
    .one (oneChar '$'),
    .one (oneChar '\x7b'),
    .group 1 (.loop 0 none true (.one innerChars)),
    .one (oneChar '\x7d')]
  groups := 1

/-- **The standard pattern is what its written form says.** -/
theorem compile_standardSource : Pattern.compile {} standardSource = .ok standardPattern := by
  have h : (Pattern.compile {} standardSource).toOption = some standardPattern := by decide +kernel
  cases hc : Pattern.compile {} standardSource with
  | error flaw => rw [hc] at h; cases h
  | ok p => rw [hc] at h; exact congrArg Except.ok (Option.some.inj h)

/-- Whether a character may stand between the braces. -/
def isInner (c : Char) : Bool := c != '\x7b' && c != '\x7d'

/-- Finds a dollar sign and what stands in braces after it, and marks what stands there. -/
def bracedScan : Text.Scanner := .unique fun _ rest =>
  match rest with
  | '$' :: '\x7b' :: body =>
    match body.dropWhile isInner with
    | '\x7d' :: _ => some ⟨(body.takeWhile isInner).length + 3, [some (body.takeWhile isInner)]⟩
    | _ => none
  | _ => none

/-- The set of a single character holds that character only. -/
theorem has_oneChar (c d : Char) : (oneChar c).has d = (d == c) := by
  simp [oneChar, Pattern.CharSet.has_ofMembers, Pattern.Member.has]

/-- The set in the standard pattern is the class of what may stand between the braces. -/
theorem has_innerChars : innerChars.has = isInner := by
  funext c
  simp [innerChars, Pattern.CharSet.has_ofMembers, Pattern.Member.has, isInner, bne]

/-- Every tag of the standard form takes three characters or more. -/
theorem least_standard : standardPattern.root.least = 3 := by decide

/-- **The standard pattern finds braces after a dollar sign:** going back never helps it. -/
theorem scan_standardPattern : standardPattern.scan = bracedScan := by
  funext welcome before rest
  have htake (body : Text) : body.take (body.takeWhile isInner).length = body.takeWhile isInner := by
    induction body with
    | nil => rfl
    | cons c body ih => by_cases h : isInner c = true <;> simp [h, ih]
  simp only [Pattern.scan, least_standard]
  match rest with
  | [] => simp [Pattern.hasRoom, bracedScan, Text.Scanner.unique]
  | [_] => simp [Pattern.hasRoom, bracedScan, Text.Scanner.unique]
  | [c, d] =>
    by_cases hc : c = '$'
    · by_cases hd : d = '\x7b' <;>
        simp [Pattern.hasRoom, bracedScan, Text.Scanner.unique, hc, hd]
    · simp [Pattern.hasRoom, bracedScan, Text.Scanner.unique, hc]
  | c :: d :: e :: after =>
    generalize hbody : e :: after = body
    have hroom : Pattern.hasRoom 3 (c :: d :: body) = true := by simp [Pattern.hasRoom, ← hbody]
    rw [if_pos hroom]
    simp only [standardPattern, Pattern.Node.sequence, Pattern.Node.run, Pattern.step, has_oneChar]
    by_cases hc : c = '$'
    · by_cases hd : d = '\x7b'
      · subst hc hd
        simp only [beq_self_eq_true, if_true, Pattern.Node.single?, has_innerChars, Option.map_none]
        rw [Pattern.stretch_greedy]
        · simp only [Pattern.Place.skip, bracedScan, Text.Scanner.unique]
          split
          · rename_i hb; simp [hb]
          · rename_i f after hb
            by_cases hf : f = '\x7d'
            · subst hf
              simp [hb, Pattern.Captures.texts, Pattern.Captures.get?, List.range_succ, htake,
                Option.filter]
              rw [show 2 + (body.takeWhile isInner).length + 1 = (body.takeWhile isInner).length + 3 by
                omega]
            · simp [hf, hb]
        · intro p g c r hp hw
          simp only [hp]
          have : c ≠ '\x7d' := by rintro rfl; simp [isInner] at hw
          simp [this]
      · simp [bracedScan, Text.Scanner.unique, hd]
    · simp [bracedScan, Text.Scanner.unique, hc]

end ColorTag

/-- A compiled pattern of a form that `Pattern.Reader` does not read: how it was written, and what it
finds in a text, with all that stands around it. -/
structure Pattern.Foreign where
  /-- The written form. -/
  source : Text
  /-- The options it was compiled under. -/
  options : Pattern.Options
  /-- How many groups it has. -/
  groups : Nat
  /-- What it finds. -/
  scan : Text.Scanner
  /-- What it finds has all the groups. -/
  length_groups {welcome : Nat → Bool} {before rest : Text} {h : Text.Hit}
    (hscan : scan welcome before rest = some h) : h.groups.length = groups

/-- A compiled pattern over bytes. -/
structure Pattern.Binary where
  /-- The written form. -/
  source : List UInt8
  /-- The options it was compiled under. -/
  options : Pattern.Options
  /-- How many groups it has. -/
  groups : Nat
  deriving DecidableEq, Repr

/-- A compiled pattern for inline tags. -/
inductive ColorTag
  /-- A pattern over texts, as the reader reads it. -/
  | read (p : Pattern)
  /-- A pattern over texts of another form. -/
  | foreign (p : Pattern.Foreign)
  /-- A pattern over bytes. -/
  | binary (p : Pattern.Binary)

namespace ColorTag

/-- The standard pattern, compiled. -/
def standard : ColorTag := .read standardPattern

/-- The written form of a pattern, between quotation marks. -/
def shownSource : ColorTag → Text
  | .read p => Text.quoted p.source
  | .foreign p => Text.quoted p.source
  | .binary p => Text.quotedBytes p.source

/-- How many groups a pattern has. -/
def groups : ColorTag → Nat
  | .read p => p.groups
  | .foreign p => p.groups
  | .binary p => p.groups

/-- Whether a text can be searched with a pattern. -/
def readsText : ColorTag → Bool
  | .read _ | .foreign _ => true
  | .binary _ => false

/-- What a pattern finds in a text. -/
def scan : ColorTag → Text.Scanner
  | .read p => p.scan
  | .foreign p => p.scan
  | .binary _ => fun _ _ _ => none

theorem readsText_standard : standard.readsText = true := rfl

theorem scan_standard : standard.scan = bracedScan := scan_standardPattern

/-- A value that is given for a tag pattern.  A written pattern of a form that the reader does not
read is given as what it compiles to. -/
inductive Given
  /-- A value that is no compiled pattern: a written pattern, if it is a text. -/
  | datum (d : Datum)
  /-- A compiled pattern. -/
  | compiled (tag : ColorTag)

/-- Why a value is not accepted as a tag pattern. -/
inductive Refusal
  /-- It is neither a text nor a pattern. -/
  | wrongKind (kind : Datum.Kind)
  /-- The written pattern has a flaw. -/
  | flawed (source : Text) (flaw : Pattern.Flaw)
  /-- The written pattern asks for more rounds than can be counted. -/
  | tooManyRounds
  /-- The pattern, here in its shown form, has no group. -/
  | noGroup (source : Text)
  deriving DecidableEq, Repr

/-- What is said of a refusal. -/
def Refusal.message : Refusal → Text
  | .wrongKind kind => "color_tag must be a str or compiled pattern, got ".toList ++ kind.name
  | .flawed source flaw =>
    "invalid color tag pattern ".toList ++ Text.quoted source ++ ": ".toList ++ flaw.message source
  | .tooManyRounds => Pattern.Cause.tooManyRounds.message
  | .noGroup source =>
    "color tag pattern must capture the style expression: ".toList ++ source

/-- A pattern that has a group. -/
def withGroup (tag : ColorTag) : Except Refusal ColorTag :=
  if tag.groups = 0 then .error (.noGroup tag.shownSource) else .ok tag

/-- The tag pattern that a value is, if it is accepted. -/
def accept : Given → Except Refusal ColorTag
  | .compiled tag => withGroup tag
  | .datum (.text source) =>
    match Pattern.compile {} source with
    | .error flaw =>
      .error (if flaw.cause = .tooManyRounds then .tooManyRounds else .flawed source flaw)
    | .ok p => withGroup (.read p)
  | .datum d => .error (.wrongKind d.kind)

/-- The style expression of a tag: the text of group 1, or the empty expression where group 1
took no part. -/
def expression (groups : List (Option Text)) : Text := (groups.headD none).getD []

end ColorTag
end TermStyle
