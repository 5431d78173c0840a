import CasingLint.Convention
import CasingLint.Text.CaseMap
import CasingLint.Text.Letter
import CasingLint.Text.LetterCase
import CasingLint.Text.Numeral

/-!
# The form of a name under a convention

A name made of letters, numerals and underscores is first brought into a normal
form in which every underscore has become a camel boundary: the character after
it is raised to upper case and the underscore itself is gone.  Each convention
then adjusts the first one or two characters.  A name with any other character,
or without anything but underscores, is left as it is.
-/

namespace CasingLint.Name

open CasingLint.Text

/-- A letter or a numeral. -/
def isWord (character : Char) : Bool :=
  isLetter character || isNumeral character

/-- Does the name hold a character that is neither a word character nor among `allowed`? -/
def hasSpecial (allowed : List Char) (name : List Char) : Bool :=
  !name.all fun character => isWord character || allowed.contains character

/-- Can the name take another form at all: are all its characters word characters or underscores? -/
def isPlain (name : List Char) : Bool :=
  !hasSpecial ['_'] name

/--
The normal form of the rest of a name.  `boundary` says that an underscore stands
directly before it; the character after a boundary is raised whatever it is, and
elsewhere only word characters are kept.
-/
def normalizeAfter (boundary : Bool) : List Char → List Char
  | [] => []
  | character :: rest =>
    if character = '_' then normalizeAfter true rest
    else if boundary then oneUpper character :: normalizeAfter false rest
    else if isWord character then character :: normalizeAfter false rest
    else normalizeAfter false rest

/--
Turns underscores into camel boundaries: `my_value` becomes `myValue` and
`_count` becomes `Count`.
-/
def normalize (name : List Char) : List Char :=
  normalizeAfter false name

/-- The shape that a convention gives to a normal form with the given first character. -/
def shape (convention : Convention) (first : Char) (rest : List Char) : List Char :=
  match convention with
  | .lowerCamel => oneLower first :: rest
  | .upperCamel => oneUpper first :: rest
  | .underscoreLowerCamel =>
    if isUpper first then '_' :: oneLower first :: rest
    else if isLower first then '_' :: first :: rest
    else first :: rest
  | .interfaceUpperCamel =>
    if first = 'i' ∧ rest.head?.any isUpper then 'I' :: rest
    else if first ≠ 'I' then 'I' :: oneUpper first :: rest
    else
      match rest with
      | [] => [first]
      | second :: tail =>
        if isLower second then 'I' :: oneUpper second :: tail else first :: second :: tail

/-- The form that a convention asks of a name. -/
def conform (convention : Convention) (name : List Char) : List Char :=
  if isPlain name then
    match normalize name with
    | [] => name
    | first :: rest => shape convention first rest
  else
    name

/-- The string form of `conform`. -/
def conformText (convention : Convention) (name : String) : String :=
  String.ofList (conform convention name.toList)

@[simp]
theorem normalizeAfter_nil (boundary : Bool) :
    normalizeAfter boundary [] = [] := rfl

@[simp]
theorem normalize_nil : normalize [] = [] := rfl

@[simp]
theorem conform_nil (convention : Convention) :
    conform convention [] = [] := by
  simp [conform]

end CasingLint.Name
