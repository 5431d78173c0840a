import CasingLint.Text.Span

/-!
# Blank characters

A blank is a white-space character of any kind: the ASCII blanks, the four
information separators, next line, the no-break and typographic spaces and the
line and paragraph separators.
-/

namespace CasingLint.Text

/-- The code points of all blanks, in increasing order. -/
def blankSpans : List Span := [
  ⟨0x9, 0xd, 1⟩, ⟨0x1c, 0x20, 1⟩, ⟨0x85, 0x85, 1⟩, ⟨0xa0, 0xa0, 1⟩, ⟨0x1680, 0x1680, 1⟩,
  ⟨0x2000, 0x200a, 1⟩, ⟨0x2028, 0x2029, 1⟩, ⟨0x202f, 0x202f, 1⟩, ⟨0x205f, 0x205f, 1⟩,
  ⟨0x3000, 0x3000, 1⟩]

/-- Is the character white space? -/
def isBlank (character : Char) : Bool :=
  inSpans blankSpans character

/-- The text without the blanks at its front. -/
def trimFront (text : List Char) : List Char :=
  text.dropWhile isBlank

/-- The text without the blanks at its end. -/
def trimBack (text : List Char) : List Char :=
  (text.reverse.dropWhile isBlank).reverse

/-- The text without the blanks at either end. -/
def trim (text : List Char) : List Char :=
  trimBack (trimFront text)

/-- The string without the blanks at either end. -/
def trimmed (text : String) : String :=
  String.ofList (trim text.toList)

end CasingLint.Text
