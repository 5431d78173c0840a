import CasingLint.Log
import CasingLint.Store

/-!
# Collecting source files

A path that leads to a file stands for that file, if its name says that it is a
source file; one that leads to a directory stands for all source files below it.
Hidden directories and those that hold no sources of one's own are not entered.  In
every directory the files come first, by name, and then the subdirectories, by name.
-/

namespace CasingLint.Store

/-- The ending of the names of source files. -/
def sourceSuffix : List Char := ['.', 'c', 's']

/-- Does the name of a file say that it is a source file? -/
def isSource (name : String) : Bool :=
  sourceSuffix.isSuffixOf name.toList

/-- Directories that hold no sources of one's own. -/
def skippedDirectories : List String :=
  ["__pycache__", "bin", "obj", "node_modules"]

/-- Is a directory entered? -/
def isEntered (name : String) : Bool :=
  name.toList.head? != some '.' && !skippedDirectories.contains name

/-- Things with names, by name. -/
def byName {α : Type} (named : List (String × α)) : List (String × α) :=
  named.mergeSort fun left right => decide (left.1 ≤ right.1)

/-- The source files among the entries of the directory at a path. -/
def ownSources (path : String) (entries : List (String × Entry)) : List String :=
  (byName (entries.filter fun (name, entry) => !entry.isDirectory && isSource name)).map
    fun (name, _) => Path.join path name

/-- The source files at or below an entry at a path. -/
def sourcesBelow (path : String) : Entry → List String
  | .file _ => []
  | .directory entries =>
    ownSources path entries ++ (byName (inSubdirectories path entries)).flatMap Prod.snd
where
  /-- The source files below each subdirectory that is entered. -/
  inSubdirectories (path : String) : List (String × Entry) → List (String × List String)
    | [] => []
    | (name, .directory entries) :: rest =>
      if isEntered name then
        (name, sourcesBelow (Path.join path name) (.directory entries)) ::
          inSubdirectories path rest
      else
        inSubdirectories path rest
    | (_, .file _) :: rest => inSubdirectories path rest

/-- The source files that a path stands for, or a log row if it leads nowhere. -/
def sourcesAt (store : Store) (path : String) : List String × List Log :=
  match store.find? path with
  | some (.file _) => (if isSource path then [path] else [], [])
  | some entry => (sourcesBelow path entry, [])
  | none => ([], [⟨.warning, .frontEnd, "Path '" ++ path ++ "' does not exist"⟩])

/-- The source files that paths stand for, and log rows for paths that lead nowhere. -/
def sources (store : Store) (paths : List String) : List String × List Log :=
  (paths.flatMap fun path => (store.sourcesAt path).1,
    paths.flatMap fun path => (store.sourcesAt path).2)

end CasingLint.Store
