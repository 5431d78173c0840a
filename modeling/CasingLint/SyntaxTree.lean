import CasingLint.Text.Utf8

/-!
# Concrete syntax trees

A parser for the language gives a tree of typed nodes over the octets of the
source.  A node may stand in a named field of its parent.  The text of a node is
the part of the source that it spans, unless the node brings its own.
-/

namespace CasingLint

/-- What a node of a syntax tree says about itself. -/
structure NodeLabel where
  type : String
  start : Nat
  stop : Nat
  field? : Option String := none
  given? : Option String := none
  deriving DecidableEq, Repr, Inhabited

/-- A syntax tree: a node with its children, named and anonymous, in order. -/
inductive SyntaxTree where
  | node (label : NodeLabel) (children : List SyntaxTree)
  deriving Repr, Inhabited

namespace SyntaxTree

open CasingLint.Text

/-- The label of the root. -/
def label : SyntaxTree → NodeLabel
  | node label _ => label

/-- The children of the root. -/
def children : SyntaxTree → List SyntaxTree
  | node _ children => children

/-- The type of the root. -/
def type (tree : SyntaxTree) : String :=
  tree.label.type

@[simp]
theorem label_node (label : NodeLabel) (children : List SyntaxTree) :
    (node label children).label = label := rfl

@[simp]
theorem children_node (label : NodeLabel) (children : List SyntaxTree) :
    (node label children).children = children := rfl

/-- The first of the trees that stands in a field. -/
def inField? (name : String) (siblings : List SyntaxTree) : Option SyntaxTree :=
  siblings.find? fun tree => tree.label.field? == some name

/-- The text of a node. -/
def text (source : Utf8.Octets) (tree : SyntaxTree) : String :=
  match tree.label.given? with
  | some given => given
  | none =>
    let span := (source.drop tree.label.start).take (tree.label.stop - tree.label.start)
    String.ofList (Utf8.decodeLossy span)

end SyntaxTree

end CasingLint
