import CasingLint.Log
import CasingLint.Settings
import CasingLint.Store

/-!
# Settings files

A settings file is merged over the default settings: a plain field replaces the
default, severities and options are merged rule by rule.  The nearest file is used:
it is looked for under several names in the directory of the analysed path and then
in each directory above it.

What value the octets of a file stand for, and how a value is written, is left to a
reader and a writer.
-/

namespace CasingLint.Settings

open CasingLint.Text

/-- Why the octets of a settings file cannot be read as a value. -/
inductive ReadFault where
  | malformed (message : String)
  | undecodable (fault : Utf8.Fault)
  | foreign (kind message : String)
  deriving Repr

/-- Reads the octets of the settings file at a path. -/
abbrev Reader := (path : String) → (content : Utf8.Octets) → Except ReadFault Value

/-- The reader that decodes the whole file before anything in it is read. -/
def Reader.ofText (read : (path text : String) → Except ReadFault Value) : Reader :=
  fun path content =>
    match Utf8.decode content with
    | .error fault => .error (.undecodable fault)
    | .ok text => read path (String.ofList (unifyLineEnds text))

/-- Writes a value as the text of a settings file. -/
abbrev Writer := (value : Value) → String

/-! ## Merging -/

/-- The entries of a section, which is a mapping or absent. -/
def sectionEntries (path name : String) : Value → Except Fault (List (Value × Value))
  | .null => .ok []
  | .map entries => .ok entries
  | value =>
    .error (.settings path ("'" ++ name ++ "' must be a mapping, got " ++ value.typeName))

/-- The entries of a value that is known to be a mapping. -/
def knownEntries : Value → List (Value × Value)
  | .map entries => entries
  | _ => []

/-- Options of rules with those of one more rule merged in. -/
def mergeOptions (path : String) (options : List (Value × Value)) (rule given : Value) :
    Except Fault (List (Value × Value)) := do
  let entries ← sectionEntries path ("rule_configs." ++ rule.display) given
  let old := ((Value.lookup options rule).map knownEntries).getD []
  return Value.insert options rule (.map (Value.update old entries))

/-- Settings with one field of a file merged in. -/
def mergeField (path : String) (settings : Settings) (name : String) (value : Value) :
    Except Fault Settings :=
  if name = "rule_severities" then do
    let entries ← sectionEntries path name value
    return { settings with
      severities := .map (Value.update (knownEntries settings.severities) entries) }
  else if name = "rule_configs" then do
    let entries ← sectionEntries path name value
    let options ← entries.foldlM
      (fun options (rule, given) => mergeOptions path options rule given)
      (knownEntries settings.options)
    return { settings with options := .map options }
  else
    return (settings.set? name value).getD settings

/-- The names of the fields of a file, if they are all known. -/
def knownFields (path : String) (entries : List (Value × Value)) :
    Except Fault (List (String × Value)) :=
  let unknown := (entries.map Prod.fst).filter fun key =>
    !fieldNames.any fun name => key.sameKey (.text name)
  let names := unknown.filterMap fun
    | .text name => some name
    | _ => none
  if unknown.isEmpty then
    .ok (entries.filterMap fun
      | (.text name, value) => some (name, value)
      | _ => none)
  else if names.length < unknown.length then
    .error .notNames
  else
    .error (.settings path ("unknown keys: " ++
      ", ".intercalate (names.mergeSort fun left right => decide (left ≤ right))))

/-- The settings that the value of a file gives over the default ones. -/
def merge (path : String) (loaded : Value) : Except Fault Settings :=
  if !loaded.isTruthy then .ok default
  else
    match loaded with
    | .map entries => do
      let fields ← knownFields path entries
      fields.foldlM (fun settings (name, value) => mergeField path settings name value) default
    | _ => .error (.settings path "top level must be a mapping")

/-! ## Files -/

/-- The value of the settings file at a path that leads somewhere. -/
def readFile (store : Store) (reader : Reader) (path : String) : Except Fault Value :=
  match store.read path with
  | .error fault =>
    if fault.isFileSystem then .error (.settings path fault.message) else .error fault
  | .ok content =>
    match reader path content with
    | .ok value => .ok value
    | .error (.malformed message) => .error (.settings path message)
    | .error (.undecodable fault) => .error (.undecodable fault)
    | .error (.foreign kind message) => .error (.reader kind message)

/-- The settings with the file at a path, if there is one; a required one must exist. -/
def load (store : Store) (reader : Reader) (path : String) (required : Bool) :
    Except Fault (Settings × List Log) :=
  if path.isEmpty then
    .ok (default, [])
  else if !store.pathExists path then
    if required then .error (.settings path "file does not exist") else .ok (default, [])
  else do
    let value ← readFile store reader path
    let settings ← merge path value
    return (settings, [⟨.info, .settings, "Loaded config from " ++ path⟩])

/-- The store with settings saved at a path, whose directory is made if it does not exist. -/
def save (store : Store) (dump : Writer) (settings : Settings) (path : String) :
    Except Fault Store := do
  let directory := Path.parent path
  let ready ← if directory.isEmpty then pure store else store.makeDirectories directory
  ready.writeText path (dump settings.toValue)

/-- The names that a settings file may have, in order of preference. -/
def names : List String :=
  [".namecheck.yml", ".namecheck.yaml", "namecheck.yml", "namecheck.yaml"]

/-- The settings file of a directory. -/
def inDirectory? (store : Store) (directory : String) : Option String :=
  (names.map (Path.join directory)).find? store.isFile

/-- A directory, given by its names with the last one first, and those above it. -/
def upward : List String → List (List String)
  | [] => [[]]
  | name :: names => (name :: names) :: upward names

/-- The settings file in the nearest directory at or above a path. -/
def find? (store : Store) (start : String) : Option String :=
  let path := Path.normalize store.directory start
  let slash := if (path.toList.take 2) = ['/', '/'] then "/" else ""
  let names := (Path.names "/" path).reverse
  let first := if store.isFile path then names.drop 1 else names
  (upward first).findSome? fun directory =>
    inDirectory? store (slash ++ Path.ofNames directory.reverse)

end CasingLint.Settings
