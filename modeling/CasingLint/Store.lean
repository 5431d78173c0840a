import CasingLint.Fault
import CasingLint.Path
import CasingLint.Text.Lines

/-!
# File stores

A store is a tree of directories and files, held as a value: writing gives a new
store.  A path is followed part by part, as a file system does it: everything it
passes through has to be a directory that exists, and two dots go up from there.
There are no links, so the textual form of a path and the way through the store
agree wherever the way exists.  A file that is there need not open: for lack of a
permission, say, or because its disk fails.
-/

namespace CasingLint

open CasingLint.Text

/-- A file, with its octets or with the reason why it does not open, or a directory. -/
inductive Entry where
  | file (content : Except Refusal Utf8.Octets)
  | directory (entries : List (String × Entry))

/-- A tree of files, with a working directory for relative paths. -/
structure Store where
  root : List (String × Entry) := []
  directory : String := "/"

namespace Entry

/-- Is the entry a directory? -/
def isDirectory : Entry → Bool
  | file _ => false
  | directory _ => true

/-- The entry at the end of a way through directories. -/
def at? : List String → Entry → Option Entry
  | [], entry => some entry
  | _ :: _, file _ => none
  | name :: names, directory entries =>
    match entries.lookup name with
    | some entry => at? names entry
    | none => none

/-- Entries under names with one name set, in its old place or at the end. -/
def setNamed {α : Type} (entries : List (String × α)) (name : String) (entry : α) :
    List (String × α) :=
  if entries.any (·.1 == name) then
    entries.map fun old => if old.1 == name then (name, entry) else old
  else
    entries ++ [(name, entry)]

/-- The entries with something put at the end of a way; missing directories on it are made. -/
def put (entry : Entry) : List String → List (String × Entry) → List (String × Entry)
  | [], entries => entries
  | [name], entries => setNamed entries name entry
  | name :: names, entries =>
    let inner := match entries.lookup name with
      | some (directory inner) => inner
      | _ => []
    setNamed entries name (directory (put entry names inner))

end Entry

namespace Store

/-- The entry at the end of a way from the root. -/
def atNames? (store : Store) (names : List String) : Option Entry :=
  Entry.at? names (.directory store.root)

/-- Follows one part of a path; `names` is the way so far with the last name first. -/
def follow (store : Store) (path : String) (names : List String) (part : String) :
    Except Fault (List String) :=
  match store.atNames? names.reverse with
  | some (.directory _) => .ok (Path.step names part)
  | some (.file _) => .error (.notDirectory path)
  | none => .error (.missingFile path)

/-- The way that a path leads, if all that it passes through are directories that exist. -/
def way (store : Store) (path : String) : Except Fault (List String) :=
  if path.isEmpty then .error (.missingFile path)
  else
    let start := if Path.isAbsolute path then [] else (Path.names "/" store.directory).reverse
    ((Path.parts path).foldlM (store.follow path) start).map List.reverse

/-- What a path leads to. -/
def find? (store : Store) (path : String) : Option Entry :=
  match store.way path with
  | .ok names => store.atNames? names
  | .error _ => none

/-- Does the path lead to anything? -/
def pathExists (store : Store) (path : String) : Bool :=
  (store.find? path).isSome

/-- Does the path lead to a file? -/
def isFile (store : Store) (path : String) : Bool :=
  (store.find? path).any (!·.isDirectory)

/-- Does the path lead to a directory? -/
def isDirectory (store : Store) (path : String) : Bool :=
  (store.find? path).any (·.isDirectory)

/-- The octets of a file. -/
def read (store : Store) (path : String) : Except Fault Utf8.Octets := do
  match store.atNames? (← store.way path) with
  | some (.file (.ok content)) => return content
  | some (.file (.error refusal)) => throw (.refused refusal path)
  | some (.directory _) => throw (.isDirectory path)
  | none => throw (.missingFile path)

/-- The text of a file, with all line ends turned into line feeds. -/
def readText (store : Store) (path : String) : Except Fault String := do
  let content ← store.read path
  match Utf8.decode content with
  | .ok text => return String.ofList (unifyLineEnds text)
  | .error fault => throw (.undecodable fault)

/-- The store with a file put at the end of a way. -/
def putFile (store : Store) (names : List String) (content : Utf8.Octets) : Store :=
  { store with root := Entry.put (.file (.ok content)) names store.root }

/-- The store with a directory at the end of a way; one that is there stays as it is. -/
def putDirectory (store : Store) (names : List String) : Store :=
  match store.atNames? names with
  | some (.directory _) => store
  | _ => { store with root := Entry.put (.directory []) names store.root }

/-- The store with a text written to a file, which must open, and whose directory must exist. -/
def writeText (store : Store) (path text : String) : Except Fault Store := do
  let names ← store.way path
  match store.atNames? names with
  | some (.directory _) => throw (.isDirectory path)
  | some (.file (.error refusal)) => throw (.refused refusal path)
  | _ => return store.putFile names (Utf8.encode text.toList)

/-- The store with one more directory. -/
def makeDirectory (store : Store) (path : String) : Except Fault Store := do
  let names ← store.way path
  if (store.atNames? names).isSome then throw (.existingFile path)
  else return store.putDirectory names

/-- The directories from the outermost to the innermost that a path names. -/
def prefixes (path : String) : List String :=
  let parts := Path.parts path
  (List.range parts.length).filterMap fun count =>
    let front := "/".intercalate (parts.take (count + 1))
    if parts[count]? = some "" then none else some front

/-- The store with the directories on the way to a path, where they do not exist. -/
def makeWay (store : Store) (fronts : List String) : Except Fault Store :=
  fronts.foldlM
    (fun store front => if store.pathExists front then .ok store else store.makeDirectory front)
    store

/-- The store with a directory and all those on the way to it. -/
def makeDirectories (store : Store) (path : String) : Except Fault Store := do
  let store ← store.makeWay (prefixes path).dropLast
  if store.isDirectory path then return store else store.makeDirectory path

end Store

end CasingLint
