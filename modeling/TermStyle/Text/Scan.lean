/-
# Scanning

A scanner answers one question: how does the form it looks for begin at this place of a
text?  It is told the text before the place, backwards, the text from there on, and which
lengths are welcome, and answers with the hit it prefers among those of a welcome length.
Most scanners ask for no more than the character before the place (`Scanner.unique`), but a
form can depend on all that came before.

From such answers `pieces` cuts a whole text, from left to right, into hits and single
characters between them.  A hit may be empty: then the scanner is asked once more at the
same place for a hit that is not, so every place gives at most one empty hit and the scan
moves on.  All that the library does with a form is a fold over these pieces:

* `replace` puts a text of its own in the place of each hit;
* `spans` lists where the hits are;
* `matchWhole` asks for one hit that is the whole text.

`pieces_source` says that cutting loses nothing, whatever the scanner answers.
-/

import TermStyle.Text.Basic

namespace TermStyle
namespace Text

/-- One way in which a form begins at a place: how many characters it takes, and the texts
of its marked parts, where they took part. -/
structure Hit where
  /-- How many characters the hit takes. -/
  length : Nat
  /-- The texts of the marked parts. -/
  groups : List (Option Text)
  deriving DecidableEq, Repr

/-- What looks for a form: from the welcome lengths, the text before the place, its last character
first, and the text from the place on, to the preferred hit. -/
abbrev Scanner := (Nat → Bool) → Text → Text → Option Hit

/-- A scanner for a form that has at most one hit at any place, found with the character before
it. -/
def Scanner.unique (find : Option Char → Text → Option Hit) : Scanner :=
  fun welcome before rest => (find before.head? rest).filter fun h => welcome h.length

/-- A part of a text that has been scanned. -/
inductive Piece
  /-- A character outside every hit. -/
  | plain (c : Char)
  /-- The text of a hit and of its marked parts. -/
  | hit (matched : Text) (groups : List (Option Text))
  deriving DecidableEq, Repr

/-- The text a piece was cut from. -/
def Piece.source : Piece → Text
  | .plain c => [c]
  | .hit matched _ => matched

/-- What stands at a place: the marked parts of an empty hit, if one comes first, and the hit
that the scan goes on from, which is not empty. -/
def Scanner.standing (scan : Scanner) (before rest : Text) :
    Option (List (Option Text)) × Option Hit :=
  match scan (fun _ => true) before rest with
  | some ⟨0, groups⟩ => (some groups, scan (fun n => n != 0) before rest)
  | found => (none, found)

/-- The empty hit at a place, as a piece. -/
def emptyPiece : Option (List (Option Text)) → List Piece
  | some groups => [.hit [] groups]
  | none => []

/-- The pieces of a text from one place on.  The scanner is not asked at the next `skip`
characters, which belong to a hit that has been cut already. -/
def piecesFrom (scan : Scanner) : Text → Nat → Text → List Piece
  | before, _, [] => emptyPiece (scan.standing before []).1
  | before, skip + 1, c :: rest => piecesFrom scan (c :: before) skip rest
  | before, 0, c :: rest =>
    let here := scan.standing before (c :: rest)
    emptyPiece here.1 ++
      match here.2 with
      | some ⟨n + 1, groups⟩ => .hit (c :: rest.take n) groups :: piecesFrom scan (c :: before) n rest
      | _ => .plain c :: piecesFrom scan (c :: before) 0 rest

/-- The pieces of a whole text. -/
def pieces (scan : Scanner) (t : Text) : List Piece := piecesFrom scan [] 0 t

@[simp] theorem emptyPiece_source (g : Option (List (Option Text))) :
    (emptyPiece g).flatMap Piece.source = [] := by
  cases g <;> rfl

theorem piecesFrom_source (scan : Scanner) (before : Text) (skip : Nat) (t : Text) :
    (piecesFrom scan before skip t).flatMap Piece.source = t.drop skip := by
  induction t generalizing before skip with
  | nil => cases skip <;> simp [piecesFrom]
  | cons c rest ih =>
    cases skip with
    | succ skip => simpa [piecesFrom] using ih (c :: before) skip
    | zero =>
      simp only [piecesFrom, List.flatMap_append, emptyPiece_source, List.nil_append]
      split
      · simp [Piece.source, ih]
      · simp [Piece.source, ih]

/-- **Cutting loses nothing:** the pieces of a text, put together again, are the text. -/
theorem pieces_source (scan : Scanner) (t : Text) :
    (pieces scan t).flatMap Piece.source = t := by
  simpa [pieces] using piecesFrom_source scan [] 0 t

/-- The text a piece leaves when each hit gives way to a text of its own. -/
def Piece.replaced (instead : Text → List (Option Text) → Text) : Piece → Text
  | .plain c => [c]
  | .hit matched groups => instead matched groups

/-- The text with another text in the place of each hit. -/
def replace (scan : Scanner) (instead : Text → List (Option Text) → Text) (t : Text) : Text :=
  (pieces scan t).flatMap (Piece.replaced instead)

/-- **Hits that give way to themselves leave the text as it was.** -/
theorem replace_self (scan : Scanner) (t : Text) : replace scan (fun m _ => m) t = t := by
  have : Piece.replaced (fun m _ => m) = Piece.source := by
    funext p; cases p <;> rfl
  rw [replace, this, pieces_source]

/-- The text without its hits. -/
def strip (scan : Scanner) (t : Text) : Text := replace scan (fun _ _ => []) t

/-- Where a hit lies in a text, and the texts of its marked parts. -/
structure Span where
  /-- How many characters come before the hit. -/
  start : Nat
  /-- How many characters come before the end of the hit. -/
  stop : Nat
  /-- The texts of the marked parts. -/
  groups : List (Option Text)
  deriving DecidableEq, Repr

/-- The hits among pieces that begin after `start` characters. -/
def spansFrom : Nat → List Piece → List Span
  | _, [] => []
  | start, .plain _ :: more => spansFrom (start + 1) more
  | start, .hit matched groups :: more =>
    ⟨start, start + matched.length, groups⟩ :: spansFrom (start + matched.length) more

/-- The hits in a text, from left to right. -/
def spans (scan : Scanner) (t : Text) : List Span := spansFrom 0 (pieces scan t)

/-- The marked parts of a hit that is the whole text, if there is one. -/
def matchWhole (scan : Scanner) (t : Text) : Option (List (Option Text)) :=
  (scan (fun n => n == t.length) [] t).map Hit.groups

end Text
end TermStyle
