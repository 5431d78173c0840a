import CasingLint.Edit
import CasingLint.Escape
import CasingLint.Value

/-!
# What can go wrong

Settings are read without a check of every type, so a value of the wrong kind is
met only where it is used.  Each constructor is one cause; `message` gives the words
that a log or an error report shows for it.
-/

namespace CasingLint

open CasingLint.Text

/-- Why the operating system does not open a file: a number and the words for it. -/
structure Refusal where
  number : Nat
  words : String
  deriving DecidableEq, Repr

/-- A cause that ends an operation. -/
inductive Fault where
  /-- A value that cannot be a member of a set or a key was used as one. -/
  | unhashable (typeName : String)
  /-- A value without elements was used as a collection. -/
  | notIterable (typeName : String)
  /-- A value that is no mapping was used as one. -/
  | notMapping (typeName : String)
  /-- A number of findings was compared with a value that is no number. -/
  | notNumber (typeName : String)
  /-- A list was cut at a number that is not whole by its type. -/
  | notIndex
  /-- A rule was matched with a pattern that is no text. -/
  | notPattern (typeName : String)
  /-- Names of settings were compared or joined that are not all texts. -/
  | notNames
  /-- A value without a JSON form was to be written. -/
  | unwritable (typeName : String)
  /-- A settings field that does not exist was given. -/
  | unknownField (name : String)
  /-- An escape in a name has no value. -/
  | escape (fault : Escape.Fault)
  /-- Edits cannot be applied. -/
  | edit (fault : Edit.Fault)
  /-- A file is no UTF-8 text. -/
  | undecodable (fault : Utf8.Fault)
  /-- The text of a file is needed that was never read. -/
  | uncached (path : String)
  /-- A rule gave up with a message. -/
  | raised (message : String)
  /-- No front end is known for a language. -/
  | noFrontEnd (language : String)
  /-- A settings file is not usable. -/
  | settings (path reason : String)
  /-- The reader of settings files gave up for a reason of its own kind. -/
  | reader (kind message : String)
  /-- A module could not be loaded. -/
  | brokenModule (message : String)
  /-- A module was not found. -/
  | missingModule (message : String)
  /-- The name of a module is empty. -/
  | emptyModuleName
  /-- The name of a module is relative to nothing. -/
  | relativeModule (name : String)
  /-- There is no file of this name. -/
  | missingFile (path : String)
  /-- A file stands where a directory is needed. -/
  | existingFile (path : String)
  /-- A directory stands where a file is needed. -/
  | isDirectory (path : String)
  /-- Something on the way to a path is no directory. -/
  | notDirectory (path : String)
  /-- A file is there and cannot be opened. -/
  | refused (refusal : Refusal) (path : String)
  deriving Repr

namespace Fault

/-- The full name of a type, with the module that defines it if that is part of it. -/
def qualified (typeName : String) : String :=
  if typeName = "date" ∨ typeName = "datetime" then "datetime." ++ typeName else typeName

/-- The message for a cause. -/
def message : Fault → String
  | unhashable typeName => "unhashable type: '" ++ qualified typeName ++ "'"
  | notIterable typeName => "'" ++ qualified typeName ++ "' object is not iterable"
  | notMapping typeName => "'" ++ qualified typeName ++ "' object has no attribute 'get'"
  | notNumber typeName =>
    "'>' not supported between instances of 'int' and '" ++ qualified typeName ++ "'"
  | notIndex => "slice indices must be integers or None or have an __index__ method"
  | notPattern "bytes" => "cannot use a bytes pattern on a string-like object"
  | notPattern typeName => "expected str, bytes or os.PathLike object, not " ++ qualified typeName
  | notNames => "'<' not supported between instances of 'int' and 'str'"
  | unwritable typeName => "Object of type " ++ typeName ++ " is not JSON serializable"
  | unknownField name => "got an unexpected keyword argument '" ++ name ++ "'"
  | escape fault => fault.message
  | edit fault => fault.message
  | undecodable fault => fault.message
  | uncached path => path
  | raised message => message
  | noFrontEnd language => "No adapter registered for '" ++ language ++ "'"
  | settings path reason => "Failed to load config from " ++ path ++ ": " ++ reason
  | reader _ message => message
  | brokenModule message => message
  | missingModule message => message
  | emptyModuleName => "Empty module name"
  | relativeModule name =>
    "the 'package' argument is required to perform a relative import for " ++ Text.quoted name
  | missingFile path => "[Errno 2] No such file or directory: " ++ Text.quoted path
  | existingFile path => "[Errno 17] File exists: " ++ Text.quoted path
  | isDirectory path => "[Errno 21] Is a directory: " ++ Text.quoted path
  | notDirectory path => "[Errno 20] Not a directory: " ++ Text.quoted path
  | refused refusal path =>
    "[Errno " ++ toString refusal.number ++ "] " ++ refusal.words ++ ": " ++ Text.quoted path

/-- Did the file system refuse an operation? -/
def isFileSystem : Fault → Bool
  | missingFile _ | existingFile _ | isDirectory _ | notDirectory _ | refused _ _ => true
  | _ => false

end Fault

end CasingLint
