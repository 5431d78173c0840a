import CasingLint.Value
import CasingLint.Text.Lines

/-!
# Values as JSON text

Reports are written as JSON in pure ASCII: everything else is escaped, characters
beyond the basic plane as a pair of surrogates.  Members keep their order.  A
report is laid out over lines with an indentation; the compact layout has no
blanks at all.  A value without a JSON form cannot be written.

The reader takes any JSON text; of a repeated member the last value counts.
-/

namespace CasingLint.Value.Json

open CasingLint.Text (hexDigits hexValue?)

/-! ## Writing -/

/-- A value of this type has no JSON form. -/
structure Unwritable where
  typeName : String
  deriving DecidableEq, Repr

/-- How a JSON text is laid out. -/
inductive Layout where
  | compact
  | indented (width : Nat)
  deriving DecidableEq, Repr

/-- The code units of a character in UTF-16. -/
def units (code : Nat) : List Nat :=
  if code < 0x10000 then [code]
  else [0xD800 + (code - 0x10000) / 0x400, 0xDC00 + (code - 0x10000) % 0x400]

/-- A character inside a JSON string. -/
def escapeChar (character : Char) : List Char :=
  match character with
  | '"' => ['\\', '"']
  | '\\' => ['\\', '\\']
  | '\n' => ['\\', 'n']
  | '\r' => ['\\', 'r']
  | '\t' => ['\\', 't']
  | '\x08' => ['\\', 'b']
  | '\x0c' => ['\\', 'f']
  | _ =>
    let code := character.toNat
    if 0x20 ≤ code ∧ code < 0x7F then [character]
    else (units code).flatMap fun unit => '\\' :: 'u' :: hexDigits 4 unit

/-- A text as a JSON string. -/
def string (text : String) : String :=
  String.ofList ('"' :: text.toList.flatMap escapeChar ++ ['"'])

/-- A number in JSON, with words for those that have no digits. -/
def number (value : Number.Binary64) : String :=
  match value with
  | .nan => "NaN"
  | .infinite negative => if negative then "-Infinity" else "Infinity"
  | finite => finite.text

/-- The text of a member's key. -/
def key : Value → Except Unwritable String
  | .text content => .ok content
  | .null => .ok "null"
  | .bool truth => .ok (if truth then "true" else "false")
  | .int value => .ok (toString value)
  | .float value => .ok (number value)
  | value => .error ⟨value.typeName⟩

/-- Puts written items between brackets, one to a line when the layout has lines. -/
def bracket (layout : Layout) (depth : Nat) (opening closing : String) (items : List String) :
    String :=
  if items.isEmpty then opening ++ closing
  else
    match layout with
    | .compact => opening ++ ",".intercalate items ++ closing
    | .indented width =>
      let margin (level : Nat) := "\n" ++ String.ofList (List.replicate (width * level) ' ')
      opening ++ margin (depth + 1) ++ ("," ++ margin (depth + 1)).intercalate items ++
        margin depth ++ closing

/-- The text between a key and its value. -/
def colon : Layout → String
  | .compact => ":"
  | .indented _ => ": "

/-- A value as JSON text at a depth of nesting. -/
def write (layout : Layout) (depth : Nat) : Value → Except Unwritable String
  | .null => .ok "null"
  | .bool truth => .ok (if truth then "true" else "false")
  | .int value => .ok (toString value)
  | .float value => .ok (number value)
  | .text content => .ok (string content)
  | .list items => do
    let written ← writeItems items
    return bracket layout depth "[" "]" written
  | .tuple items => do
    let written ← writeItems items
    return bracket layout depth "[" "]" written
  | .map entries => do
    let written ← writeMembers entries
    return bracket layout depth "\x7b" "\x7d" written
  | value => .error ⟨value.typeName⟩
where
  /-- The items of a list or a tuple. -/
  writeItems : List Value → Except Unwritable (List String)
    | [] => .ok []
    | item :: rest => do
      let first ← write layout (depth + 1) item
      let others ← writeItems rest
      return first :: others
  /-- The members of a mapping. -/
  writeMembers : List (Value × Value) → Except Unwritable (List String)
    | [] => .ok []
    | (name, value) :: rest => do
      let label ← key name
      let content ← write layout (depth + 1) value
      let others ← writeMembers rest
      return (string label ++ colon layout ++ content) :: others

/-- A value as JSON text. -/
def render (layout : Layout) (value : Value) : Except Unwritable String :=
  write layout 0 value

/-! ## Reading -/

/-- The text without the JSON blanks at its front. -/
def skipBlanks (text : List Char) : List Char :=
  text.dropWhile fun character =>
    character == ' ' || character == '\n' || character == '\r' || character == '\t'

/-- The number that four hexadecimal digits write. -/
def hexUnit? (first second third fourth : Char) : Option Nat := do
  let a ← hexValue? first
  let b ← hexValue? second
  let c ← hexValue? third
  let d ← hexValue? fourth
  return ((a * 16 + b) * 16 + c) * 16 + d

/-- The character of a short escape. -/
def shortEscape? : Char → Option Char
  | '"' => some '"'
  | '\\' => some '\\'
  | '/' => some '/'
  | 'n' => some '\n'
  | 'r' => some '\r'
  | 't' => some '\t'
  | 'b' => some '\x08'
  | 'f' => some '\x0c'
  | _ => none

/-- The character of a pair of surrogates. -/
def pairChar (high low : Nat) : Char :=
  Char.ofNat (0x10000 + (high - 0xD800) * 0x400 + (low - 0xDC00))

/-- Reads the rest of a string; `read` holds what came before, backwards. -/
def readString (read : List Char) : List Char → Option (String × List Char)
  | [] => none
  | '"' :: rest => some (String.ofList read.reverse, rest)
  | '\\' :: 'u' :: a :: b :: c :: d :: '\\' :: 'u' :: e :: f :: g :: h :: rest =>
    match hexUnit? a b c d, hexUnit? e f g h with
    | some high, some low =>
      if 0xD800 ≤ high ∧ high < 0xDC00 ∧ 0xDC00 ≤ low ∧ low < 0xE000 then
        readString (pairChar high low :: read) rest
      else
        readString (Char.ofNat high :: read) ('\\' :: 'u' :: e :: f :: g :: h :: rest)
    | _, _ => none
  | '\\' :: 'u' :: a :: b :: c :: d :: rest =>
    match hexUnit? a b c d with
    | some unit => readString (Char.ofNat unit :: read) rest
    | none => none
  | '\\' :: mark :: rest =>
    match shortEscape? mark with
    | some character => readString (character :: read) rest
    | none => none
  | character :: rest => readString (character :: read) rest
termination_by input => input.length
decreasing_by all_goals simp_wf <;> omega

/-- Can the character stand in a number? -/
def isNumberChar (character : Char) : Bool :=
  character.isDigit || ['-', '+', '.', 'e', 'E'].contains character

/-- The value of a number's text: an integer unless it has a point or an exponent. -/
def readNumber? (text : List Char) : Option Value :=
  match Number.readSigned? text with
  | some value => some (.int value)
  | none => (Number.Binary64.ofText? (String.ofList text)).map .float

/-- The rest of the text after an expected word. -/
def afterWord? : List Char → List Char → Option (List Char)
  | [], input => some input
  | _ :: _, [] => none
  | expected :: word, character :: input =>
    if expected = character then afterWord? word input else none

mutual

/-- Reads a value; nesting deeper than `fuel` is refused. -/
def readValue (fuel : Nat) (text : List Char) : Option (Value × List Char) :=
  match fuel with
  | 0 => none
  | fuel + 1 =>
    match skipBlanks text with
    | '\x7b' :: rest =>
      match skipBlanks rest with
      | '\x7d' :: after => some (.map [], after)
      | start => readMembers fuel [] start
    | '[' :: rest =>
      match skipBlanks rest with
      | ']' :: after => some (.list [], after)
      | start => readItems fuel [] start
    | '"' :: rest => (readString [] rest).map fun (content, after) => (.text content, after)
    | 't' :: rest => (afterWord? ['r', 'u', 'e'] rest).map (.bool true, ·)
    | 'f' :: rest => (afterWord? ['a', 'l', 's', 'e'] rest).map (.bool false, ·)
    | 'n' :: rest => (afterWord? ['u', 'l', 'l'] rest).map (.null, ·)
    | start =>
      let digits := start.takeWhile isNumberChar
      (readNumber? digits).map (·, start.drop digits.length)

/-- Reads the items of a list up to its bracket; `read` holds the earlier ones, backwards. -/
def readItems (fuel : Nat) (read : List Value) (text : List Char) :
    Option (Value × List Char) :=
  match fuel with
  | 0 => none
  | fuel + 1 => do
    let (item, rest) ← readValue fuel text
    match skipBlanks rest with
    | ',' :: more => readItems fuel (item :: read) more
    | ']' :: after => some (.list (item :: read).reverse, after)
    | _ => none

/-- Reads the members of an object up to its brace; `read` holds the earlier ones. -/
def readMembers (fuel : Nat) (read : List (Value × Value)) (text : List Char) :
    Option (Value × List Char) :=
  match fuel with
  | 0 => none
  | fuel + 1 =>
    match skipBlanks text with
    | '"' :: start => do
      let (name, afterName) ← readString [] start
      match skipBlanks afterName with
      | ':' :: valueStart =>
        let (value, rest) ← readValue fuel valueStart
        let members := Value.insert read (.text name) value
        match skipBlanks rest with
        | ',' :: more => readMembers fuel members more
        | '\x7d' :: after => some (.map members, after)
        | _ => none
      | _ => none
    | _ => none

end

/-- The value of a JSON text. -/
def read? (text : String) : Option Value :=
  let characters := text.toList
  match readValue (2 * characters.length + 2) characters with
  | some (value, rest) => if (skipBlanks rest).isEmpty then some value else none
  | none => none

end CasingLint.Value.Json
