/-!
# Lines

Three readings of lines are in use.  Positions and suppression comments know one
line end only, the line feed.  Files are read with every line end turned into a
line feed.  Differences are shown between lines cut after any of the line ends
that text knows, each kept with its line.
-/

namespace CasingLint.Text

/-- The pieces of a text between the occurrences of a separator; one more than there are of it. -/
def splitAt (separator : Char) : List Char → List (List Char)
  | [] => [[]]
  | character :: rest =>
    if character = separator then
      [] :: splitAt separator rest
    else
      match splitAt separator rest with
      | [] => [[character]]
      | piece :: pieces => (character :: piece) :: pieces

theorem splitAt_ne_nil (separator : Char) (text : List Char) :
    splitAt separator text ≠ [] := by
  cases text with
  | nil => simp [splitAt]
  | cons character rest =>
    simp only [splitAt]
    split
    · simp
    · split <;> simp

/-- Turns carriage returns, with or without a line feed after them, into line feeds. -/
def unifyLineEnds : List Char → List Char
  | [] => []
  | '\r' :: '\n' :: rest => '\n' :: unifyLineEnds rest
  | '\r' :: rest => '\n' :: unifyLineEnds rest
  | character :: rest => character :: unifyLineEnds rest

/-- Does a line end after the character? A carriage return before a line feed does not count. -/
def isLineEnd (character : Char) : Bool :=
  ['\n', '\r', '\x0b', '\x0c', '\x1c', '\x1d', '\x1e', '\u0085', '\u2028', '\u2029'].contains
    character

/-- The lines of a text, each with its line end; `line` holds the current one backwards. -/
def linesFrom (line : List Char) : List Char → List (List Char)
  | [] => if line.isEmpty then [] else [line.reverse]
  | '\r' :: '\n' :: rest => ('\n' :: '\r' :: line).reverse :: linesFrom [] rest
  | character :: rest =>
    if isLineEnd character then (character :: line).reverse :: linesFrom [] rest
    else linesFrom (character :: line) rest

/-- The lines of a text, each with its line end. -/
def keptLines (text : List Char) : List (List Char) :=
  linesFrom [] text

end CasingLint.Text
