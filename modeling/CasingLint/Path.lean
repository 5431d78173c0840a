import CasingLint.Text.Lines
import CasingLint.Text.Utf8

/-!
# File paths

Paths are texts with a slash between names.  An absolute path starts with a slash;
any other is relative to a working directory.  The operations here are purely
textual and never look at a file system.
-/

namespace CasingLint.Path

open CasingLint.Text

/-- The parts of a path between slashes, empty ones included. -/
def parts (path : String) : List String :=
  (splitAt '/' path.toList).map String.ofList

/-- Does the path start at the root? -/
def isAbsolute (path : String) : Bool :=
  path.toList.head? == some '/'

/--
Takes one part: a dot stays, two dots go up, a name goes down.  `names` has the
last name first.
-/
def step (names : List String) (part : String) : List String :=
  if part = "" ∨ part = "." then names
  else if part = ".." then names.drop 1
  else part :: names

/-- The names on the way from the root to a path. -/
def names (directory path : String) : List String :=
  let start := if isAbsolute path then [] else (parts directory).foldl step []
  ((parts path).foldl step start).reverse

/-- The absolute path through the given names. -/
def ofNames (names : List String) : String :=
  "/" ++ "/".intercalate names

/-- The absolute form of a path without dots and doubled slashes. -/
def resolve (directory path : String) : String :=
  ofNames (names directory path)

/-- The absolute form of a path in which exactly two leading slashes are kept. -/
def normalize (directory path : String) : String :=
  let resolved := resolve directory path
  match path.toList with
  | '/' :: '/' :: '/' :: _ => resolved
  | '/' :: '/' :: _ => "/" ++ resolved
  | _ => resolved

/-- A path inside a directory; an absolute one stands by itself. -/
def join (directory path : String) : String :=
  if isAbsolute path then path
  else if directory.isEmpty || directory.toList.getLast? == some '/' then directory ++ path
  else directory ++ "/" ++ path

/-- The path up to its last slash, without slashes at its end unless it has nothing else. -/
def parent (path : String) : String :=
  let head := (path.toList.reverse.dropWhile (· ≠ '/'))
  let bare := head.dropWhile (· = '/')
  String.ofList (if bare.isEmpty then head else bare).reverse

/-- The path after its last slash. -/
def fileName (path : String) : List Char :=
  (path.toList.reverse.takeWhile (· ≠ '/')).reverse

/-- The extension of a path with its dot; dots at the front of the file name do not start one. -/
def extension (path : String) : List Char :=
  let name := (fileName path).dropWhile (· = '.')
  if name.contains '.' then '.' :: (name.reverse.takeWhile (· ≠ '.')).reverse else []

/-- Can the octet stand in a URI as it is? -/
def isKept (octet : UInt8) : Bool :=
  let character := Char.ofNat octet.toNat
  decide (octet.toNat < 0x80) &&
    (character.isAlphanum || ['_', '.', '-', '~', '/'].contains character)

/-- An octet in a URI. -/
def percentOctet (octet : UInt8) : List Char :=
  if isKept octet then [Char.ofNat octet.toNat]
  else '%' :: (hexDigits 2 octet.toNat).map Char.toUpper

/-- The URI of an absolute path. -/
def uri (path : String) : String :=
  "file://" ++ String.ofList ((Utf8.encode path.toList).flatMap percentOctet)

end CasingLint.Path
