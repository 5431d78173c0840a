import CasingLint.Log
import CasingLint.Path
import CasingLint.Rule.Naming
import CasingLint.Text.Glob
import CasingLint.Text.LowerText

/-!
# The catalogue of rules and front ends

Rules are kept in the order in which they were first registered, one per
identifier; a second rule under a known identifier is ignored.  The same holds for
the front ends of languages.  Rules are selected by language and by glob patterns
for their identifiers.
-/

namespace CasingLint

/-- A front end for a language: its name, and the extensions of the files that it takes. -/
structure FrontEnd where
  name : String
  extensions : List String
  deriving DecidableEq, Repr

/-- The front end for the language of the naming rule. -/
def FrontEnd.standard : FrontEnd where
  name := Rule.Naming.language
  extensions := [".cs"]

/-- The known rules and front ends. -/
structure Catalogue where
  rules : List Rule := []
  frontEnds : List (String × FrontEnd) := []

namespace Catalogue

/-- The identifiers of the rules. -/
def ruleIds (catalogue : Catalogue) : List String :=
  catalogue.rules.map Rule.id

/-- The languages that have a front end. -/
def languages (catalogue : Catalogue) : List String :=
  catalogue.frontEnds.map Prod.fst

/-- The catalogue with one more rule, unless its identifier is known. -/
def register (catalogue : Catalogue) (rule : Rule) : Catalogue :=
  if catalogue.ruleIds.contains rule.id then catalogue
  else { catalogue with rules := catalogue.rules ++ [rule] }

/-- The log row for a rule whose identifier is known. -/
def registerRows (catalogue : Catalogue) (rule : Rule) : List Log :=
  if catalogue.ruleIds.contains rule.id then
    [⟨.debug, .catalogue, "Rule '" ++ rule.id ++ "' already registered"⟩]
  else
    []

/-- The catalogue with one more front end, unless its language has one. -/
def registerFrontEnd (catalogue : Catalogue) (language : String) (frontEnd : FrontEnd) :
    Catalogue :=
  if catalogue.languages.contains language then catalogue
  else { catalogue with frontEnds := catalogue.frontEnds ++ [(language, frontEnd)] }

/-- The catalogue with everything taken out. -/
def clear (_ : Catalogue) : Catalogue :=
  {}

/-- The front end of a language. -/
def frontEnd? (catalogue : Catalogue) (language : String) : Option FrontEnd :=
  catalogue.frontEnds.lookup language

/-- The first front end that takes files with the extension of a path, in whatever case. -/
def frontEndFor? (catalogue : Catalogue) (path : String) : Option FrontEnd :=
  let extension := String.ofList (Text.lowerText (Path.extension path))
  (catalogue.frontEnds.map Prod.snd).find? (·.extensions.contains extension)

/-- Does one of the patterns match an identifier? They are tried in order. -/
def matchesAny (id : String) : List Value → Except Fault Bool
  | [] => .ok false
  | .text pattern :: rest =>
    if Text.Glob.isMatch pattern id then .ok true else matchesAny id rest
  | value :: _ => .error (.notPattern value.typeName)

/-- The rules for a language that one of the patterns selects. -/
def enabled (catalogue : Catalogue) (patterns : Value) (language : String) :
    Except Fault (List Rule) := do
  let patterns ← patterns.elements
  catalogue.rules.filterM fun rule =>
    if rule.languages.contains language then matchesAny rule.id patterns else .ok false

end Catalogue

end CasingLint
