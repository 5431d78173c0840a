import CasingLint.Diff.Unified
import CasingLint.Fault
import CasingLint.Report.Document

/-!
# Fixing files

The edits of the findings of a file are applied together.  Files are taken in the
order in which findings first name them; one that does not change is passed over,
and the first one that cannot be fixed ends the work.
-/

namespace CasingLint

/-- A file whose text changes: how many findings it has, and its text before and after. -/
structure Fix where
  file : String
  findings : Nat
  before : String
  after : String
  deriving DecidableEq, Repr

namespace Fix

/-- The difference that a fix makes. -/
def diff (fix : Fix) : String :=
  Diff.unified fix.file fix.before fix.after

/-- The files that findings name, in the order in which they first do. -/
def files (findings : List Finding) : List String :=
  (findings.map Finding.file).eraseDups

/-- The fix for one file, if its text changes. -/
def ofFile (directory : String) (texts : Report.Texts) (findings : List Finding) (file : String) :
    Except Fault (Option Fix) := do
  let own := findings.filter (·.file == file)
  let path := Path.resolve directory file
  match Report.textOf? texts path with
  | none => throw (.uncached path)
  | some before =>
    let after ← (Edit.applyAll before (Finding.collectEdits own)).mapError .edit
    return if after = before then none else some ⟨file, own.length, before, after⟩

/-- The fixes for files in order, up to the first that cannot be fixed, and what is wrong there. -/
def inOrder (directory : String) (texts : Report.Texts) (findings : List Finding) :
    List String → List Fix × Option Fault
  | [] => ([], none)
  | file :: rest =>
    match ofFile directory texts findings file with
    | .error fault => ([], some fault)
    | .ok fix? =>
      let (fixes, fault?) := inOrder directory texts findings rest
      (fix?.toList ++ fixes, fault?)

/-- The fixes for all files that findings name. -/
def all (directory : String) (texts : Report.Texts) (findings : List Finding) :
    List Fix × Option Fault :=
  inOrder directory texts findings (files findings)

end Fix

end CasingLint
