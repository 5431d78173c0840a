import CasingLint.Text.Utf8

/-!
# Places in a text

A place is given by an octet offset or by a line and a column.  Lines count from
one and end at line feeds; columns count characters from zero.  An offset inside a
character belongs to the place before it, one outside the text to its nearest end.
-/

namespace CasingLint

open CasingLint.Text

/-- A line, counted from one, and a column, counted in characters from zero. -/
structure Position where
  line : Nat
  column : Nat
  deriving DecidableEq, Repr

namespace Position

/-- The place after the given text. -/
def after (text : List Char) : Position where
  line := text.count '\n' + 1
  column := (text.reverse.takeWhile (· ≠ '\n')).length

/-- The characters of a text that lie before an octet offset. -/
def textBefore (text : String) (offset : Int) : List Char :=
  Utf8.decodeLossy ((Utf8.encode text.toList).take offset.toNat)

/-- The place of an octet offset. -/
def ofOffset (text : String) (offset : Int) : Position :=
  after (textBefore text offset)

end Position

end CasingLint
