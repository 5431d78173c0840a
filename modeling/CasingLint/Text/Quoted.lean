import CasingLint.Text.Hex
import CasingLint.Text.Printable

/-!
# Quoted text in messages

Messages show a text between quotation marks: single ones, or double ones for a
text that holds single but no double ones.  The backslash, the chosen quotation
mark and everything that is not printable are written as escapes, with two, four
or eight hexadecimal digits as the code point needs.  Octets are shown in the same
way, behind a letter; those that stand for no printable ASCII character are escaped.
-/

namespace CasingLint.Text

/-- How a character is written between the given quotation marks. -/
def quoteChar (mark character : Char) : List Char :=
  if character = mark || character = '\\' then ['\\', character]
  else if character = '\n' then ['\\', 'n']
  else if character = '\r' then ['\\', 'r']
  else if character = '\t' then ['\\', 't']
  else if isPrintable character then [character]
  else if character.toNat < 0x100 then '\\' :: 'x' :: hexDigits 2 character.toNat
  else if character.toNat < 0x10000 then '\\' :: 'u' :: hexDigits 4 character.toNat
  else '\\' :: 'U' :: hexDigits 8 character.toNat

/-- The quotation mark that a text is shown in. -/
def quoteMark (text : List Char) : Char :=
  if text.contains '\'' && !text.contains '"' then '"' else '\''

/-- A text between quotation marks. -/
def quoted (text : String) : String :=
  let characters := text.toList
  let mark := quoteMark characters
  String.ofList (mark :: characters.flatMap (quoteChar mark) ++ [mark])

/-- Octets between quotation marks. -/
def quotedOctets (octets : List UInt8) : String :=
  let characters := octets.map fun octet => Char.ofNat octet.toNat
  let mark := quoteMark characters
  let write (character : Char) : List Char :=
    if character.toNat < 0x7F then quoteChar mark character
    else '\\' :: 'x' :: hexDigits 2 character.toNat
  String.ofList ('b' :: mark :: characters.flatMap write ++ [mark])

end CasingLint.Text
