/-!
# Glob patterns

A pattern matches a whole text.  `*` stands for any run of characters, `?` for one
character and `[…]` for one character of a set, `[!…]` for one outside it.  Every
other character stands for itself, and so does a bracket that is never closed; a
closing bracket right after the opening one belongs to the set.

A set is written as characters and ranges.  Hyphens cut it into chunks, and the
last character of a chunk together with the first of the next makes a range.  A
range that runs backwards is dropped with both of its ends.
-/

namespace CasingLint.Text.Glob

/-- One or more characters of a set, from the first to the last. -/
structure Interval where
  first : Char
  last : Char
  deriving DecidableEq, Repr

/-- Does the interval hold the character? -/
def Interval.contains (interval : Interval) (character : Char) : Bool :=
  decide (interval.first ≤ character) && decide (character ≤ interval.last)

/-- A piece of a pattern. -/
inductive Piece where
  | many
  | one
  | exactly (character : Char)
  | among (negated : Bool) (members : List Interval)
  deriving DecidableEq, Repr

/-- Does a piece that stands for a single character stand for this one? -/
def Piece.admits : Piece → Char → Bool
  | .many, _ => false
  | .one, _ => true
  | .exactly expected, character => expected == character
  | .among negated members, character =>
    members.any (·.contains character) != negated

/-- Does some suffix of the text pass the test? -/
def anySuffix (test : List Char → Bool) : List Char → Bool
  | [] => test []
  | character :: rest => test (character :: rest) || anySuffix test rest

/-- Do the pieces match the whole text? -/
def matchPieces : List Piece → List Char → Bool
  | [], text => text.isEmpty
  | .many :: pieces, text => anySuffix (matchPieces pieces) text
  | _ :: _, [] => false
  | piece :: pieces, character :: rest => piece.admits character && matchPieces pieces rest

/-! ## Reading sets -/

/--
Cuts the inside of a set at the hyphens that make ranges.  A hyphen is passed over
while `guard` characters have yet to be taken into the current chunk.
-/
def chunksFrom (guard : Nat) (chunk : List Char) : List Char → List (List Char)
  | [] => [chunk.reverse]
  | character :: rest =>
    if character = '-' ∧ guard = 0 then chunk.reverse :: chunksFrom 2 [] rest
    else chunksFrom (guard - 1) (character :: chunk) rest

/-- Puts the hyphen back that stood at the very end of a set. -/
def closeChunks (chunks : List (List Char)) : List (List Char) :=
  match chunks.reverse with
  | [] :: previous :: earlier => ((previous ++ ['-']) :: earlier).reverse
  | _ => chunks

/-- Does the range between two chunks run backwards? -/
def isBackwards (left right : List Char) : Bool :=
  match left.getLast?, right.head? with
  | some last, some first => decide (first < last)
  | _, _ => false

/-- Drops the ranges that run backwards, from the last one to the first. -/
def joinBackwards : List (List Char) → List (List Char)
  | [] => []
  | chunk :: chunks =>
    match joinBackwards chunks with
    | [] => [chunk]
    | next :: later =>
      if isBackwards chunk next then (chunk.dropLast ++ next.drop 1) :: later
      else chunk :: next :: later

/-- A character of a set, or the hyphen of a range. -/
inductive Mark where
  | plain (character : Char)
  | hyphen
  deriving DecidableEq, Repr

/-- The characters of the chunks with a range hyphen between each two chunks. -/
def marks : List (List Char) → List Mark
  | [] => []
  | [chunk] => chunk.map .plain
  | chunk :: chunks => chunk.map .plain ++ .hyphen :: marks chunks

/-- Reads characters and ranges; a range hyphen with nothing before it is a character. -/
def intervals : List Mark → List Interval
  | [] => []
  | .plain first :: .hyphen :: .plain last :: rest => ⟨first, last⟩ :: intervals rest
  | .plain character :: rest => ⟨character, character⟩ :: intervals rest
  | .hyphen :: rest => ⟨'-', '-'⟩ :: intervals rest

/-- The piece for the inside of a pair of brackets. -/
def readSet (inside : List Char) : Piece :=
  let guard := if inside.head? = some '!' then 2 else 1
  match marks (joinBackwards (closeChunks (chunksFrom guard [] inside))) with
  | .plain '!' :: [] => .one
  | .plain '!' :: members => .among true (intervals members)
  | members => .among false (intervals members)

/--
The inside of a set whose opening bracket has just been read, and the length of
what it takes up with its closing bracket; nothing if it is never closed.
-/
def setAt? (text : List Char) : Option (List Char × Nat) :=
  let mark := if text.head? = some '!' then 1 else 0
  let early := if (text.drop mark).head? = some ']' then 1 else 0
  let opening := mark + early
  let body := (text.drop opening).takeWhile (· ≠ ']')
  if opening + body.length < text.length then
    some (text.take opening ++ body, opening + body.length + 1)
  else
    none

/-- Reads the pieces of a pattern after passing over `skipped` characters. -/
def piecesFrom (skipped : Nat) : List Char → List Piece
  | [] => []
  | character :: rest =>
    match skipped with
    | remaining + 1 => piecesFrom remaining rest
    | 0 =>
      if character = '*' then .many :: piecesFrom 0 rest
      else if character = '?' then .one :: piecesFrom 0 rest
      else if character = '[' then
        match setAt? rest with
        | some (inside, size) => readSet inside :: piecesFrom size rest
        | none => .exactly '[' :: piecesFrom 0 rest
      else .exactly character :: piecesFrom 0 rest

/-- The pieces of a pattern. -/
def pieces (pattern : List Char) : List Piece :=
  piecesFrom 0 pattern

/-- Does the pattern match the whole text? -/
def isMatch (pattern text : String) : Bool :=
  matchPieces (pieces pattern.toList) text.toList

end CasingLint.Text.Glob
