import CasingLint.Number.Shortest
import CasingLint.Text.Quoted

/-!
# Values of documents

Settings files and report documents hold values of a few kinds.  Mappings keep
their entries in order and may have keys of any kind, and sets keep their items in
the order in which they are gone through.  Of a value that is no collection and is
only ever passed on (a date) the name of its type is kept.
-/

namespace CasingLint

open CasingLint.Number (Binary64)

/-- A value of a settings or report document. -/
inductive Value where
  | null
  | bool (truth : Bool)
  | int (number : Int)
  | float (number : Binary64)
  | text (content : String)
  | octets (content : List UInt8)
  | list (items : List Value)
  | tuple (items : List Value)
  | set (items : List Value)
  | map (entries : List (Value × Value))
  | other (typeName : String)
  deriving Repr, Inhabited

namespace Value

/-- The name of a value's type, as messages give it. -/
def typeName : Value → String
  | null => "NoneType"
  | bool _ => "bool"
  | int _ => "int"
  | float _ => "float"
  | text _ => "str"
  | octets _ => "bytes"
  | list _ => "list"
  | tuple _ => "tuple"
  | set _ => "set"
  | map _ => "dict"
  | other name => name

/--
The type that keeps a value from being a key or a member of a set: a tuple is as good as its
items, and the first that will not do is to blame.
-/
def unhashable? : Value → Option String
  | list _ => some "list"
  | set _ => some "set"
  | map _ => some "dict"
  | tuple items => firstUnhashable? items
  | _ => none
where
  /-- The type of the first of several values that will not do. -/
  firstUnhashable? : List Value → Option String
    | [] => none
    | item :: rest => (unhashable? item).or (firstUnhashable? rest)

/-- Can the value serve as a key or as a member of a set? -/
def isHashable (value : Value) : Bool :=
  value.unhashable?.isNone

/-- Does the value count as present? Empty and zero values do not. -/
def isTruthy : Value → Bool
  | null => false
  | bool truth => truth
  | int number => number != 0
  | float number => !number.isZero
  | text content => !content.isEmpty
  | octets content => !content.isEmpty
  | list items => !items.isEmpty
  | tuple items => !items.isEmpty
  | set items => !items.isEmpty
  | map entries => !entries.isEmpty
  | other _ => true

/--
Are two keys the same key? One that is no number at all is not even the same as itself, and
nothing is known of those of other kinds.
-/
def sameKey : Value → Value → Bool
  | null, null => true
  | bool left, bool right => left == right
  | int left, int right => left == right
  | float left, float right => left == right && left != .nan
  | text left, text right => left == right
  | octets left, octets right => left == right
  | _, _ => false

/-- The text of a value inside other text: texts are quoted, the rest is written as a literal. -/
def literal : Value → String
  | null => "None"
  | bool truth => if truth then "True" else "False"
  | int number => toString number
  | float number => number.text
  | text content => Text.quoted content
  | octets content => Text.quotedOctets content
  | list items => "[" ++ ", ".intercalate (literals items) ++ "]"
  | tuple [item] => "(" ++ literal item ++ ",)"
  | tuple items => "(" ++ ", ".intercalate (literals items) ++ ")"
  | set [] => "set()"
  | set items => "\x7b" ++ ", ".intercalate (literals items) ++ "\x7d"
  | map entries => "\x7b" ++ ", ".intercalate (pairs entries) ++ "\x7d"
  | other name => name
where
  /-- The literals of several items. -/
  literals : List Value → List String
    | [] => []
    | item :: rest => literal item :: literals rest
  /-- The literals of the entries of a mapping. -/
  pairs : List (Value × Value) → List String
    | [] => []
    | (key, value) :: rest => (literal key ++ ": " ++ literal value) :: pairs rest

/-- The text of a value by itself: a text stands as it is. -/
def display : Value → String
  | text content => content
  | value => value.literal

/-- The value under a key in a list of entries. -/
def lookup (entries : List (Value × Value)) (key : Value) : Option Value :=
  (entries.find? fun entry => entry.1.sameKey key).map Prod.snd

/-- The entries with one key set: in its old place if it has one, else at the end. -/
def insert (entries : List (Value × Value)) (key value : Value) : List (Value × Value) :=
  if entries.any fun entry => entry.1.sameKey key then
    entries.map fun entry => if entry.1.sameKey key then (entry.1, value) else entry
  else
    entries ++ [(key, value)]

/-- The entries with all of `newer` set in turn. -/
def update (entries newer : List (Value × Value)) : List (Value × Value) :=
  newer.foldl (fun merged entry => insert merged entry.1 entry.2) entries

/-- A mapping with text keys. -/
def record (fields : List (String × Value)) : Value :=
  map (fields.map fun field => (text field.1, field.2))

/-- The value of a field, when the value is a mapping that has it. -/
def field? (value : Value) (name : String) : Option Value :=
  match value with
  | map entries => lookup entries (text name)
  | _ => none

/-- An integer value from a natural number. -/
def ofNat (number : Nat) : Value :=
  int number

end Value

end CasingLint
