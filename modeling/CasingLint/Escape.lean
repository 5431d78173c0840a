import CasingLint.Text.Hex

/-!
# Unicode escapes in identifiers

An identifier may be spelled with the verbatim mark in front and with escapes:
`\u` and four hexadecimal digits, or `\U` and eight.  `decode` gives the code
points that a spelling denotes.  An escape may name a surrogate, which is a code
point but no character, so the result is a list of code points.  What an escape
denotes is never read again as part of another escape.

Eight digits can go beyond the last code point, and such an escape has no value.
-/

namespace CasingLint.Escape

/-- A Unicode code point, surrogates included. -/
abbrev CodePoint := Fin 0x110000

/-- An escape whose number is no code point; the larger numbers do not even fit a 32-bit integer. -/
inductive Fault where
  | beyondUnicode
  | beyondInteger
  deriving DecidableEq, Repr

/-- The message for an escape without a value. -/
def Fault.message : Fault → String
  | .beyondUnicode => "chr() arg not in range(0x110000)"
  | .beyondInteger => "Python int too large to convert to C int"

/-- The number written by exactly `count` hexadecimal digits at the front of a text. -/
def hexNumber? (count : Nat) (text : List Char) : Option Nat :=
  let digits := text.take count
  if digits.length = count then
    (digits.mapM Text.hexValue?).map (·.foldl (fun total digit => 16 * total + digit) 0)
  else
    none

/-- The escape after a backslash: its number, and how many characters it takes up. -/
def escapeAt? : List Char → Option (Nat × Nat)
  | 'u' :: digits => (hexNumber? 4 digits).map (·, 5)
  | 'U' :: digits => (hexNumber? 8 digits).map (·, 9)
  | _ => none

/-- The code point with a number. -/
def codePoint (number : Nat) : Except Fault CodePoint :=
  if inRange : number < 0x110000 then .ok ⟨number, inRange⟩
  else if number < 0x80000000 then .error .beyondUnicode
  else .error .beyondInteger

/-- The code point of a character. -/
def ofChar (character : Char) : CodePoint :=
  Fin.ofNat 0x110000 character.toNat

/-- The code points of the rest of a spelling after passing over `skipped` characters. -/
def decodeFrom (skipped : Nat) : List Char → Except Fault (List CodePoint)
  | [] => .ok []
  | character :: rest =>
    match skipped with
    | remaining + 1 => decodeFrom remaining rest
    | 0 =>
      match (if character = '\\' then escapeAt? rest else none) with
      | some (number, size) => do
        let point ← codePoint number
        let others ← decodeFrom size rest
        return point :: others
      | none => do
        let others ← decodeFrom 0 rest
        return ofChar character :: others

/-- The code points that the spelling of an identifier denotes. -/
def decode (spelling : List Char) : Except Fault (List CodePoint) :=
  match spelling with
  | '@' :: name => decodeFrom 0 name
  | name => decodeFrom 0 name

/--
The character of a code point.  A surrogate has none and is shown as the
replacement character.
-/
def toChar (point : CodePoint) : Char :=
  if 0xD800 ≤ point.val ∧ point.val < 0xE000 then '\ufffd' else Char.ofNat point.val

/-- The value of an identifier as a text. -/
def value (spelling : String) : Except Fault String :=
  (decode spelling.toList).map fun points => String.ofList (points.map toChar)

end CasingLint.Escape
