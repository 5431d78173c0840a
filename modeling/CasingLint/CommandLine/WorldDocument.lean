import CasingLint.CommandLine.Run
import CasingLint.SyntaxTree.Document

/-!
# Worlds in documents

Parsing source text, reading settings files and checking a report is work for other
programs.  They describe the world of a run in a document with these fields:

* `directory`: the working directory;
* `files`: the text of every file by path;
* `trees`: for each source text its syntax tree, as `text` and `tree`;
* `documents`: for each settings text its value, as `text` and `value`;
* `complaint`: what is wrong with the report, if anything, as `place` and `message`.
-/

namespace CasingLint.CommandLine

open CasingLint.Text

/-- The text of a field; empty if there is none. -/
def textField (document : Value) (name : String) : String :=
  match document.field? name with
  | some (.text content) => content
  | _ => ""

/-- The items of a list field; none if there is no such field. -/
def listField (document : Value) (name : String) : List Value :=
  match document.field? name with
  | some (.list items) => items
  | _ => []

/-- The files of a document, by path. -/
def filesOf (document : Value) : List (String × String) :=
  match document.field? "files" with
  | some (.map entries) => entries.filterMap fun
      | (.text path, .text content) => some (path, content)
      | _ => none
  | _ => []

/-- The file store of a document. -/
def storeOf (document : Value) : Store :=
  let directory := Path.resolve "/" (textField document "directory")
  let start : Store := { directory := directory }
  (filesOf document).foldl
    (fun store (path, content) =>
      store.putFile (Path.names directory path) (Utf8.encode content.toList))
    (start.putDirectory (Path.names "/" directory))

/-- The parser that knows the trees of a document. -/
def parserOf (document : Value) (text : String) : SyntaxTree :=
  let found := (listField document "trees").find? fun entry => textField entry "text" == text
  ((found.bind (·.field? "tree")).bind SyntaxTree.ofValue?).getD .empty

/-- The reader that knows the values of a document. -/
def readerOf (document : Value) : Settings.Reader := .ofText fun _ text =>
  match (listField document "documents").find? fun entry => textField entry "text" == text with
  | some entry => .ok ((entry.field? "value").getD .null)
  | none => .error (.malformed "no value is known for this text")

/-- A step of the place of a complaint. -/
def stepOf : Value → Schema.Step
  | .int number => .index number.toNat
  | value => .key value.display

/-- The validator that knows the complaint of a document. -/
def validatorOf (document : Value) : Schema.Validator := fun _ _ =>
  (document.field? "complaint").map fun complaint =>
    { place := (listField complaint "place").map stepOf
      message := textField complaint "message" }

/-- The world that a document describes; no time passes in it. -/
def World.ofDocument (document : Value) : World where
  store := storeOf document
  parse := parserOf document
  reader := readerOf document
  validate := validatorOf document
  metrics := ⟨.int 0, .int 0, .int 0⟩

/-- The files whose text a run has changed, with their new text. -/
def changedFiles (document : Value) (store : Store) : List (String × String) :=
  (filesOf document).filterMap fun (path, before) =>
    match store.readText path with
    | .ok after => if after = before then none else some (path, after)
    | .error _ => none

end CasingLint.CommandLine
