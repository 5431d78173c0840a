import CasingLint.Diff.Alignment
import CasingLint.Text.Lines

/-!
# Unified differences

A difference is shown as hunks: the changed lines, marked with a minus or a plus,
inside up to three unchanged lines on either side.  Changes with at most six
unchanged lines between them share a hunk.  Each hunk starts with the place and the
number of its lines in both versions.
-/

namespace CasingLint.Diff

open CasingLint.Text

/-- The number of unchanged lines shown around a change. -/
def margin : Nat := 3

/-- Pieces shown together, with the number of lines before them in either version. -/
structure Hunk where
  oldStart : Nat
  newStart : Nat
  pieces : List Piece
  deriving DecidableEq, Repr

/-- Does the list hold a change? -/
def hasChange (pieces : List Piece) : Bool :=
  pieces.any fun
    | .change _ _ => true
    | .same _ => false

/-- The number of lines of the old version in the pieces. -/
def oldSize (pieces : List Piece) : Nat :=
  (pieces.flatMap Piece.before).length

/-- The number of lines of the new version in the pieces. -/
def newSize (pieces : List Piece) : Nat :=
  (pieces.flatMap Piece.after).length

/-- The piece for unchanged lines, if there are any. -/
def unchanged (lines : List Line) : List Piece :=
  if lines.isEmpty then [] else [.same lines]

/-- The last lines of a list, at most `margin` of them. -/
def lastLines (lines : List Line) : List Line :=
  lines.drop (lines.length - margin)

/--
Gathers pieces into hunks.  `hunk` is the hunk under way, if a change has been met,
and `oldStart` and `newStart` count the lines before the pieces that remain.
-/
def gather (hunk : Option Hunk) (oldStart newStart : Nat) : List Piece → List Hunk
  | [] => hunk.toList
  | .change removed added :: rest =>
    let change := Piece.change removed added
    let extended := match hunk with
      | some hunk => { hunk with pieces := hunk.pieces ++ [change] }
      | none => ⟨oldStart, newStart, [change]⟩
    gather (some extended) (oldStart + removed.length) (newStart + added.length) rest
  | .same lines :: rest =>
    let oldNext := oldStart + lines.length
    let newNext := newStart + lines.length
    let opened (shown : List Line) : Option Hunk :=
      some ⟨oldNext - shown.length, newNext - shown.length, unchanged shown⟩
    match hunk with
    | none =>
      if hasChange rest then gather (opened (lastLines lines)) oldNext newNext rest else []
    | some hunk =>
      let closed := { hunk with pieces := hunk.pieces ++ unchanged (lines.take margin) }
      if !hasChange rest then
        [closed]
      else if 2 * margin < lines.length then
        closed :: gather (opened (lastLines lines)) oldNext newNext rest
      else
        gather (some { hunk with pieces := hunk.pieces ++ [.same lines] }) oldNext newNext rest

/-- The hunks of an alignment. -/
def hunks (pieces : List Piece) : List Hunk :=
  gather none 0 0 pieces

/-- The place of lines in a version: first line and number, where a single line needs no number. -/
def rangeText (start size : Nat) : String :=
  if size = 1 then toString (start + 1)
  else if size = 0 then toString start ++ ",0"
  else toString (start + 1) ++ "," ++ toString size

/-- The lines of a piece, each with its mark. -/
def pieceLines : Piece → List (List Char)
  | .same lines => lines.map (' ' :: ·)
  | .change removed added => removed.map ('-' :: ·) ++ added.map ('+' :: ·)

/-- The text of a hunk. -/
def hunkText (hunk : Hunk) : String :=
  "@@ -" ++ rangeText hunk.oldStart (oldSize hunk.pieces) ++ " +" ++
    rangeText hunk.newStart (newSize hunk.pieces) ++ " @@\n" ++
    String.ofList (hunk.pieces.flatMap pieceLines).flatten

/-- The difference between two versions of a file; empty if there is none. -/
def unified (path before after : String) : String :=
  let shown := hunks (align (keptLines before.toList) (keptLines after.toList))
  if shown.isEmpty then ""
  else
    "--- a/" ++ path ++ "\n+++ b/" ++ path ++ "\n" ++ String.join (shown.map hunkText)

end CasingLint.Diff
