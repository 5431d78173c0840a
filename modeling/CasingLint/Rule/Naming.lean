import CasingLint.Rule

/-!
# The naming rule

The rule reports every name whose spelling differs from what its declaration's
convention asks for, with an edit that renames it there.  The option `skip_kinds`
lists kinds of declaration that are passed over.
-/

namespace CasingLint.Rule

namespace Naming

open CasingLint.Text

/-- The language that the rule is for. -/
def language : String := "csharp"

/-- The identifier of the rule. -/
def id : String := "naming.conventions"

/-- The texts in a collection, all of whose elements must be fit for a set. -/
def textsOf (elements : List Value) : Except Fault (List String) :=
  match elements.findSome? Value.unhashable? with
  | some typeName => .error (.unhashable typeName)
  | none => .ok (elements.filterMap fun
      | .text content => some content
      | _ => none)

/-- The labels of the kinds that the options pass over. -/
def skippedKinds (options : Value) : Except Fault (List String) := do
  match ← options.getText "skip_kinds" with
  | none => return []
  | some chosen => if chosen.isTruthy then textsOf (← chosen.elements) else return []

/-- The finding for a violation. -/
def finding (file : String) (violation : Violation) : Finding where
  rule := id
  message := violation.message
  file := file
  start := violation.start
  stop := violation.stop
  severity := .text "warn"
  autofix := some [⟨violation.start, violation.stop, violation.corrected⟩]
  details := some
    [("kind", .text violation.label), ("convention", .text violation.convention.label),
      ("original_name", .text violation.spelling), ("suggested_name", .text violation.corrected)]

/-- The findings for sites, except those of skipped kinds. -/
def findings (file : String) (skipped : List String) (sites : List Site) : List Finding :=
  ((sites.flatMap fun site => site.declaration.violations).filter
    fun violation => !skipped.contains violation.label).map (finding file)

/-- What the rule reports for a file. -/
def visit (context : RuleContext) : Except Fault (List Finding) :=
  match context.language?, context.tree? with
  | some spoken, some tree =>
    if spoken = language then do
      let skipped ← skippedKinds context.options
      let sites ← (tree.allSites (Utf8.encode context.text.toList)).mapError .escape
      return findings context.file skipped sites
    else
      .ok []
  | _, _ => .ok []

end Naming

/-- The naming rule. -/
def naming : Rule where
  id := Naming.id
  languages := [Naming.language]
  visit := Naming.visit

end CasingLint.Rule
