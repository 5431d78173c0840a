import CasingLint.SyntaxTree
import CasingLint.Value

/-!
# Syntax trees in documents

A parser hands its trees over as documents: a node is a list of its type, its two
offsets, the field that it stands in or nothing, and the list of its children.  A sixth
item, if there is one, is the text that the node brings with it.
-/

namespace CasingLint.SyntaxTree

/-- The text that a node brings with it; nothing counts as an empty text. -/
def givenText : List Value → Option String
  | [] => none
  | .text content :: _ => some content
  | _ :: _ => some ""

/-- The label of a node from the items before its children. -/
def labelOf? (type start stop field : Value) (given : List Value) : Option NodeLabel :=
  match type, start, stop with
  | .text type, .int start, .int stop =>
    some
      { type := type
        start := start.toNat
        stop := stop.toNat
        field? := match field with
          | .text name => some name
          | _ => none
        given? := givenText given }
  | _, _, _ => none

/-- The tree that a document describes. -/
def ofValue? : Value → Option SyntaxTree
  | .list (type :: start :: stop :: field :: .list children :: given) => do
    let label ← labelOf? type start stop field given
    let trees ← ofValues? children
    return node label trees
  | _ => none
where
  /-- The trees that documents describe. -/
  ofValues? : List Value → Option (List SyntaxTree)
    | [] => some []
    | value :: rest => do
      let tree ← ofValue? value
      let trees ← ofValues? rest
      return tree :: trees

/-- The tree of an empty source. -/
def empty : SyntaxTree :=
  node { type := "compilation_unit", start := 0, stop := 0 } []

end CasingLint.SyntaxTree
