import CasingLint.Edit
import CasingLint.Value

/-!
# Findings

A finding is what a rule reports for a place in a file: a message, a severity, the
edits that would mend it and details for the reader of a report.  Its severity is
one of three words, or whatever the settings put in its place.
-/

namespace CasingLint

/-- A rule's report for a span of octets in a file. -/
structure Finding where
  rule : String
  message : String
  file : String
  start : Int
  stop : Int
  severity : Value
  autofix : Option (List Edit) := none
  details : Option (List (String × Value)) := none

namespace Finding

/-- The edits of a finding. -/
def edits (finding : Finding) : List Edit :=
  finding.autofix.getD []

/-- Adds the edits that are not yet there, in order. -/
def addEdits (collected : List Edit) : List Edit → List Edit
  | [] => collected
  | edit :: rest =>
    addEdits (if collected.contains edit then collected else collected ++ [edit]) rest

/-- The edits of all findings, each once, in the order of their first occurrence. -/
def collectEdits (findings : List Finding) : List Edit :=
  addEdits [] (findings.flatMap edits)

end Finding

end CasingLint
