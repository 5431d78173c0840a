import CasingLint.Fault
import CasingLint.Finding
import CasingLint.SyntaxTree.Site

/-!
# Rules

A rule looks at one file at a time and reports findings, or gives up with a fault.
It sees the file's text and syntax tree, the language of the front end that parsed
it, and the options that the settings hold for it, which can be of any kind.
-/

namespace CasingLint

/-- What a rule gets to see of a file. -/
structure RuleContext where
  file : String
  text : String
  tree? : Option SyntaxTree
  language? : Option String
  options : Value

/-- A rule with its identifier and the languages that it is for. -/
structure Rule where
  id : String
  languages : List String
  visit : RuleContext → Except Fault (List Finding)

namespace Value

/-- The value under a text key of a value that should be a mapping. -/
def getText (value : Value) (key : String) : Except Fault (Option Value) :=
  match value with
  | map entries => .ok (lookup entries (text key))
  | wrong => .error (.notMapping wrong.typeName)

/-- The elements of a value that should be a collection: characters, numbers, items or keys. -/
def elements : Value → Except Fault (List Value)
  | text content => .ok (content.toList.map fun character => text (String.singleton character))
  | octets content => .ok (content.map fun octet => ofNat octet.toNat)
  | list items => .ok items
  | tuple items => .ok items
  | set items => .ok items
  | map entries => .ok (entries.map Prod.fst)
  | value => .error (.notIterable value.typeName)

end Value

end CasingLint
