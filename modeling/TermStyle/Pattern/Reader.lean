/-
# Reading patterns

The written form of a pattern is cut into lexemes, one character each, or two where a
backslash escapes a character.  The reader takes one construct after another off the front
and keeps a stack of the groups that are still open, each with the alternatives and the items
that it has so far.  A construct of several lexemes (a set, a quantifier, the head of a group)
is read at its first one; the others are then skipped.

A flaw has a cause and a place.

| cause | place |
| --- | --- |
| a backslash that escapes nothing | the backslash |
| a set, or a group, that is never closed | its opening bracket |
| a range that runs backwards | its first character |
| bounds that run backwards, or are too great | after the brace |
| a quantifier with nothing, or another quantifier, before it | the quantifier |
| a bad group name, or one that was used before | the name |

One lexeme is looked ahead, so a backslash that escapes nothing is found as soon as the lexeme
before it is taken: `taken` is asked each time.

The dialect has neither look-around nor references to groups; a group whose opening is none
of `(`, `(?:` and `(?P<name>` is an unknown extension.
-/

import TermStyle.Pattern.Basic
import TermStyle.Text.Identifier
import TermStyle.Text.Quoted

namespace TermStyle
namespace Pattern

/-- What can be wrong with a written pattern. -/
inductive Cause
  /-- The last backslash escapes nothing. -/
  | openEscape
  /-- A letter or digit that has no meaning after a backslash. -/
  | unknownEscape (c : Char)
  /-- A quantifier has nothing to repeat. -/
  | nothingToRepeat
  /-- A quantifier follows another. -/
  | repeatedTwice
  /-- The least number of rounds is above the greatest. -/
  | boundsReversed
  /-- A number of rounds is too great to be counted. -/
  | tooManyRounds
  /-- A set is never closed. -/
  | openSet
  /-- A range ends before it begins, or is none of characters. -/
  | badRange (first last : Text)
  /-- A group is never closed. -/
  | openGroup
  /-- A bracket closes no group. -/
  | unopenedGroup
  /-- The pattern ends inside the head of a group. -/
  | unexpectedEnd
  /-- The head of a group is of no known form. -/
  | unknownExtension (head : Text)
  /-- A group name is empty. -/
  | noName
  /-- A group name does not end. -/
  | openName
  /-- A group name is no identifier. -/
  | badName (name : Text)
  /-- Two groups have one name. -/
  | nameTaken (name : Text) (index earlier : Nat)
  deriving DecidableEq, Repr

/-- A cause and where it lies: how many characters of the pattern come before. -/
structure Flaw where
  /-- What is wrong. -/
  cause : Cause
  /-- How many characters come before the place. -/
  offset : Nat
  deriving DecidableEq, Repr

/-- What is said of a cause. -/
def Cause.message : Cause → Text
  | .openEscape => "bad escape (end of pattern)".toList
  | .unknownEscape c => "bad escape ".toList ++ [Text.backslash, c]
  | .nothingToRepeat => "nothing to repeat".toList
  | .repeatedTwice => "multiple repeat".toList
  | .tooManyRounds => "the repetition number is too large".toList
  | .boundsReversed => "min repeat greater than max repeat".toList
  | .openSet => "unterminated character set".toList
  | .badRange first last => "bad character range ".toList ++ first ++ '-' :: last
  | .openGroup => "missing ), unterminated subpattern".toList
  | .unopenedGroup => "unbalanced parenthesis".toList
  | .unexpectedEnd => "unexpected end of pattern".toList
  | .unknownExtension head => "unknown extension ?".toList ++ head
  | .noName => "missing group name".toList
  | .openName => "missing >, unterminated name".toList
  | .badName name => "bad character in group name ".toList ++ Text.quoted name
  | .nameTaken name index earlier =>
    "redefinition of group name ".toList ++ Text.quoted name ++ " as group ".toList ++
      Text.digits index ++ "; was group ".toList ++ Text.digits earlier

/-- What is said of a flaw: the cause and the place, with line and column where the pattern
has several lines. -/
def Flaw.message (f : Flaw) (source : Text) : Text :=
  let ahead := source.take f.offset
  let line := ahead.count '\n' + 1
  let column := (ahead.reverse.takeWhile (· != '\n')).length + 1
  let lines := if source.contains '\n' then
      " (line ".toList ++ Text.digits line ++ ", column ".toList ++ Text.digits column ++ [')']
    else []
  f.cause.message ++ " at position ".toList ++ Text.digits f.offset ++ lines

/-- The smallest part of a written pattern. -/
inductive Lexeme
  /-- A character by itself. -/
  | plain (c : Char)
  /-- A character after a backslash. -/
  | escaped (c : Char)
  /-- A backslash at the end. -/
  | broken
  deriving DecidableEq, Repr

/-- The text of a lexeme. -/
def Lexeme.text : Lexeme → Text
  | .plain c => [c]
  | .escaped c => [Text.backslash, c]
  | .broken => [Text.backslash]

/-- A lexeme with how many characters come before it. -/
abbrev Token := Lexeme × Nat

/-- Cuts a written pattern, from the given place on, into lexemes. -/
def lexemes : Nat → Text → List Token
  | _, [] => []
  | offset, c :: rest =>
    if c = Text.backslash then
      match rest with
      | [] => [(.broken, offset)]
      | d :: rest => (.escaped d, offset) :: lexemes (offset + 2) rest
    else (.plain c, offset) :: lexemes (offset + 1) rest

/-- What holds once the lexeme before `rest` has been taken. -/
def taken (rest : List Token) : Except Flaw Unit :=
  match rest with
  | (.broken, offset) :: _ => .error ⟨.openEscape, offset⟩
  | _ => .ok ()

/-- The class that a letter names after a backslash. -/
def categoryOf? (c : Char) : Option Member :=
  match c with
  | 'd' => some (.kind .digit false)
  | 'D' => some (.kind .digit true)
  | 's' => some (.kind .blank false)
  | 'S' => some (.kind .blank true)
  | 'w' => some (.kind .word false)
  | 'W' => some (.kind .word true)
  | _ => none

/-- The character that a letter or another character stands for after a backslash. -/
def escapedChar? (c : Char) : Option Char :=
  match c with
  | 'a' => some '\x07'
  | 'f' => some '\x0c'
  | 'n' => some '\n'
  | 'r' => some '\r'
  | 't' => some '\t'
  | 'v' => some '\x0b'
  | _ => if c.isAlphanum then none else some c

/-- The condition that a letter names after a backslash. -/
def anchorOf? (c : Char) : Option Anchor :=
  match c with
  | 'A' => some .start
  | 'b' => some .boundary
  | 'B' => some .inside
  | 'Z' => some .stop
  | _ => none

/-- A lexeme inside a set. -/
def memberOf (t : Token) : Except Flaw Member :=
  match t.1 with
  | .plain c => .ok (.one c)
  | .broken => .error ⟨.openEscape, t.2⟩
  | .escaped c =>
    match categoryOf? c with
    | some m => .ok m
    | none =>
      if c = 'b' then .ok (.one '\x08')
      else match escapedChar? c with
        | some d => .ok (.one d)
        | none => .error ⟨.unknownEscape c, t.2⟩

/-- The range between two lexemes of a set. -/
def rangeOf (first last : Token) : Except Flaw Member := do
  let flaw := ⟨.badRange first.1.text last.1.text, first.2⟩
  match ← memberOf first, ← memberOf last with
  | .one a, .one b => if a ≤ b then .ok (.range a b) else .error flaw
  | _, _ => .error flaw

/-- The members that begin with a lexeme of a set, whether the set is closed after them, and
how many more lexemes they take.  A closing bracket in the first place is a member. -/
def membersAt (opened : Nat) (first : Bool) (this : Token) (rest : List Token) :
    Except Flaw (List Member × Bool × Nat) := do
  taken rest
  if this.1 = .plain ']' && !first then return ([], true, 0)
  let one ← memberOf this
  match rest with
  | (.plain '-', _) :: after =>
    taken after
    match after with
    | [] => .error ⟨.openSet, opened⟩
    | that :: more =>
      taken more
      if that.1 = .plain ']' then return ([one, .one '-'], true, 2)
      return ([← rangeOf this that], false, 2)
  | _ => return ([one], false, 0)

/-- The members of a set up to its closing bracket, and how many lexemes they take with it.
The next `skip` lexemes belong to members that have been read. -/
def members (opened : Nat) : (first : Bool) → (skip : Nat) → List Token →
    Except Flaw (List Member × Nat)
  | _, _, [] => .error ⟨.openSet, opened⟩
  | first, skip + 1, _ :: rest => do
    let (others, n) ← members opened first skip rest
    return (others, n + 1)
  | first, 0, this :: rest => do
    let (here, closed, skip) ← membersAt opened first this rest
    if closed then return (here, skip + 1)
    let (others, n) ← members opened false skip rest
    return (here ++ others, n + 1)

/-- What an item of a pattern was written as, as far as a quantifier after it cares. -/
inductive Role
  | atom | anchor | loop
  deriving DecidableEq, Repr

/-- A group that is still open, or the whole pattern. -/
structure Frame where
  /-- Where the group was opened. -/
  opened : Nat
  /-- The number of the group, where it is remembered. -/
  index : Option Nat
  /-- The alternatives that are complete, the last one first. -/
  alternatives : List (List (Node Atom))
  /-- The items of the alternative that is being read, the last one first. -/
  items : List (Role × Node Atom)

namespace Frame

/-- The items of the alternative that is being read. -/
def alternative (f : Frame) : List (Node Atom) := f.items.reverse.flatMap fun item => item.2.items

/-- The node of a frame that is complete. -/
def node (f : Frame) : Node Atom :=
  let body := Node.alternatives (f.alternative :: f.alternatives).reverse
  match f.index with
  | some index => .group index body
  | none => body

/-- The frame with one more item. -/
def push (f : Frame) (role : Role) (n : Node Atom) : Frame := { f with items := (role, n) :: f.items }

/-- The frame with the alternative being read complete. -/
def alternate (f : Frame) : Frame :=
  { f with alternatives := f.alternative :: f.alternatives, items := [] }

end Frame

/-- The state of the reader. -/
structure Reader where
  /-- The innermost open group. -/
  frame : Frame
  /-- The groups around it, the whole pattern last. -/
  outer : List Frame
  /-- How many groups are remembered so far. -/
  groups : Nat
  /-- The names of groups, with their numbers. -/
  names : List (Text × Nat)

namespace Reader

/-- The reader before the first lexeme. -/
def start : Reader := ⟨⟨0, none, [], []⟩, [], 0, []⟩

/-- The reader after one more item. -/
def push (r : Reader) (role : Role) (n : Node Atom) : Reader := { r with frame := r.frame.push role n }

/-- The reader inside a new group. -/
def enter (r : Reader) (opened : Nat) (index : Option Nat) : Reader :=
  { r with frame := ⟨opened, index, [], []⟩, outer := r.frame :: r.outer }

/-- The reader inside a new group that is remembered. -/
def enterGroup (r : Reader) (opened : Nat) : Reader :=
  { r.enter opened (some (r.groups + 1)) with groups := r.groups + 1 }

/-- The bounds that a quantifier in braces gives, and how many lexemes it takes after the
opening brace; nothing where the braces are plain text. -/
def bounds? (rest : List Token) : Option (Nat × Option Nat × Nat) :=
  let isDigit (t : Token) : Bool := match t.1 with
    | .plain c => c.isDigit
    | _ => false
  let value (ts : List Token) : Nat := ts.foldl (fun n t => 10 * n + match t.1 with
    | .plain c => c.toNat - 0x30
    | _ => 0) 0
  let low := rest.takeWhile isDigit
  match rest.drop low.length with
  | (.plain '}', _) :: _ =>
    if low.isEmpty then none else some (value low, some (value low), low.length + 1)
  | (.plain ',', _) :: after =>
    let high := after.takeWhile isDigit
    match after.drop high.length with
    | (.plain '}', _) :: _ =>
      some (value low, if high.isEmpty then none else some (value high), low.length + high.length + 2)
    | _ => none
  | _ => none

/-- The number of rounds that cannot be counted any more. -/
def uncountable : Nat := 0xFFFFFFFF

/-- Repeats the last item; `rest` follows the quantifier, which took `n` lexemes after its
first.  A question mark makes the loop lazy. -/
def quantify (r : Reader) (offset least : Nat) (most : Option Nat) (n : Nat) (rest : List Token) :
    Except Flaw (Reader × Nat) :=
  match r.frame.items with
  | [] | (.anchor, _) :: _ => .error ⟨.nothingToRepeat, offset⟩
  | (.loop, _) :: _ => .error ⟨.repeatedTwice, offset⟩
  | (.atom, body) :: items =>
    let loop (greedy : Bool) : Reader :=
      { r with frame := { r.frame with items := (.loop, .loop least most greedy body) :: items } }
    match rest with
    | (.plain '?', _) :: after => do
      taken after
      return (loop false, n + 1)
    | _ => .ok (loop true, n)

/-- Reads the rest of the head of a named group, after `(?P<`. -/
def enterNamed (r : Reader) (opened nameAt : Nat) (rest : List Token) :
    Except Flaw (Reader × Nat) :=
  let parts := rest.takeWhile fun t => t.1 != .plain '>' && t.1 != .broken
  let name := parts.flatMap fun t => t.1.text
  match rest.drop parts.length with
  | [] => .error ⟨if name.isEmpty then .noName else .openName, nameAt⟩
  | close :: after => do
    taken (close :: after)
    taken after
    if name.isEmpty then .error ⟨.noName, nameAt⟩
    else if !Text.isIdentifier name then .error ⟨.badName name, nameAt⟩
    else match r.names.lookup name with
      | some earlier => .error ⟨.nameTaken name (r.groups + 1) earlier, nameAt⟩
      | none =>
        let entered := r.enterGroup opened
        return ({ entered with names := (name, entered.groups) :: entered.names }, parts.length + 4)

/-- Reads the head of a group, after its opening bracket. -/
def openGroup (r : Reader) (opened : Nat) (rest : List Token) : Except Flaw (Reader × Nat) :=
  match rest with
  | (.plain '?', mark) :: rest => do
    taken rest
    match rest with
    | [] => .error ⟨.unexpectedEnd, mark + 1⟩
    | (.plain ':', _) :: rest =>
      taken rest
      return (r.enter opened none, 2)
    | (.plain 'P', letter) :: rest =>
      taken rest
      match rest with
      | [] => .error ⟨.unexpectedEnd, letter + 1⟩
      | (.plain '<', less) :: rest =>
        taken rest
        r.enterNamed opened (less + 1) rest
      | other :: rest =>
        taken rest
        .error ⟨.unknownExtension ('P' :: other.1.text), mark⟩
    | (.plain '<', less) :: rest =>
      taken rest
      match rest with
      | [] => .error ⟨.unexpectedEnd, less + 1⟩
      | other :: rest =>
        taken rest
        .error ⟨.unknownExtension ('<' :: other.1.text), mark⟩
    | other :: rest =>
      taken rest
      .error ⟨.unknownExtension other.1.text, mark⟩
  | _ => .ok (r.enterGroup opened, 0)

/-- Reads an escape outside sets. -/
def escape (r : Reader) (offset : Nat) (c : Char) : Except Flaw Reader :=
  match categoryOf? c, anchorOf? c, escapedChar? c with
  | some m, _, _ => .ok (r.push .atom (.one (.oneOf false [m])))
  | none, some a, _ => .ok (r.push .anchor (.anchor a))
  | none, none, some d => .ok (r.push .atom (.character d))
  | none, none, none => .error ⟨.unknownEscape c, offset⟩

/-- Reads the construct that begins with a lexeme, and says how many more lexemes it takes. -/
def construct (r : Reader) (t : Token) (rest : List Token) : Except Flaw (Reader × Nat) :=
  let offset := t.2
  match t.1 with
  | .broken => .error ⟨.openEscape, offset⟩
  | .plain ')' =>
    match r.outer with
    | [] => .error ⟨.unopenedGroup, offset⟩
    | frame :: outer => do
      taken rest
      return ({ r with frame := frame.push .atom r.frame.node, outer := outer }, 0)
  | .escaped c => do
    taken rest
    return (← r.escape offset c, 0)
  | .plain c => do
    taken rest
    match c with
    | '|' => return ({ r with frame := r.frame.alternate }, 0)
    | '.' => return (r.push .atom (.one .any), 0)
    | '^' => return (r.push .anchor (.anchor .start), 0)
    | '$' => return (r.push .anchor (.anchor .lineEnd), 0)
    | '(' => r.openGroup offset rest
    | '[' =>
      match rest with
      | (.plain '^', _) :: after =>
        taken after
        let (ms, n) ← members offset true 0 after
        return (r.push .atom (.one (.oneOf true ms.eraseDups)), n + 1)
      | _ =>
        let (ms, n) ← members offset true 0 rest
        return (r.push .atom (.one (.oneOf false ms.eraseDups)), n)
    | '*' => r.quantify offset 0 none 0 rest
    | '+' => r.quantify offset 1 none 0 rest
    | '?' => r.quantify offset 0 (some 1) 0 rest
    | '{' =>
      match bounds? rest with
      | none => return (r.push .atom (.character '{'), 0)
      | some (least, most, n) =>
        taken (rest.drop n)
        if uncountable ≤ least || most.any fun m => uncountable ≤ m then
          .error ⟨.tooManyRounds, offset + 1⟩
        else if most.any fun m => m < least then .error ⟨.boundsReversed, offset + 1⟩
        else r.quantify offset least most n (rest.drop n)
    | c => return (r.push .atom (.character c), 0)

/-- Reads lexemes, of which the next `skip` belong to a construct that has been read. -/
def run : Reader → Nat → List Token → Except Flaw Reader
  | r, _, [] => .ok r
  | r, skip + 1, _ :: rest => run r skip rest
  | r, 0, t :: rest =>
    match r.construct t rest with
    | .error flaw => .error flaw
    | .ok (r, skip) => run r skip rest

end Reader

end Pattern

/-- Reads and compiles a pattern. -/
def Pattern.compile (options : Pattern.Options) (source : Text) : Except Pattern.Flaw Pattern := do
  let r ← Pattern.Reader.start.run 0 (Pattern.lexemes 0 source)
  match r.outer with
  | [] => return ⟨source, options, r.frame.node.map (Pattern.Atom.set options), r.groups⟩
  | _ :: _ => .error ⟨.openGroup, r.frame.opened⟩

end TermStyle
