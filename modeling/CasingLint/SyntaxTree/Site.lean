import CasingLint.Escape
import CasingLint.SyntaxTree
import CasingLint.Violation

/-!
# From syntax trees to declarations

A tree is read in preorder.  Every node of a declaring type gives one declaration,
and so does every bare identifier in a parameter list, where an array of further
parameters has no node of its own.  A `Site` is a declaration together with the
declarations around it, the nearest first, so that the governing declaration of
a name is found without any reference back into the tree.

The escapes of a name may be without a value.  The reading then breaks off, so the
result is a list of sites in which the first fault hides everything after it.
-/

namespace CasingLint

open CasingLint.Text

/-- A declaration in its place: with the declarations around it, the nearest first. -/
structure Site where
  declaration : Declaration
  enclosing : List Declaration

namespace Site

/-- The declaration itself, then those around it. -/
def chain (site : Site) : List Declaration :=
  site.declaration :: site.enclosing

end Site

namespace SyntaxTree

/-- The kind of declaration that a node type stands for. -/
def declaredKind? (type : String) : Option Kind :=
  match type with
  | "property_declaration" => some .property
  | "method_declaration" => some .method
  | "class_declaration" => some .classType
  | "struct_declaration" => some .structType
  | "interface_declaration" => some .interfaceType
  | "field_declaration" => some .field
  | "local_declaration_statement" => some .localVariable
  | "parameter" => some .parameter
  | "implicit_parameter" => some .parameter
  | "namespace_declaration" => some .other
  | "file_scoped_namespace_declaration" => some .other
  | "enum_declaration" => some .other
  | "enum_member_declaration" => some .other
  | "record_declaration" => some .other
  | "record_struct_declaration" => some .other
  | "delegate_declaration" => some .other
  | "constructor_declaration" => some .other
  | "destructor_declaration" => some .other
  | "event_declaration" => some .other
  | "event_field_declaration" => some .other
  | "indexer_declaration" => some .other
  | "operator_declaration" => some .other
  | "conversion_operator_declaration" => some .other
  | "local_function_statement" => some .other
  | _ => none

/-- The trees of one type. -/
def ofType (type : String) (siblings : List SyntaxTree) : List SyntaxTree :=
  siblings.filter (·.type == type)

/-- The tree if it is an identifier. -/
def identifier? (tree : SyntaxTree) : Option SyntaxTree :=
  if tree.type = "identifier" then some tree else none

/-- The name of a declarator: what stands in its name field, else its first identifier. -/
def declaratorName? (declarator : SyntaxTree) : Option SyntaxTree :=
  match inField? "name" declarator.children with
  | some name => name.identifier?
  | none => declarator.children.find? (·.type == "identifier")

/-- The names that a field or local declaration binds. -/
def declaratorNames (siblings : List SyntaxTree) : List SyntaxTree :=
  (ofType "variable_declaration" siblings).flatMap fun group =>
    (ofType "variable_declarator" group.children).filterMap declaratorName?

/-- The nodes of the names that a declaring node of the given kind binds. -/
def nameNodes (kind : Kind) (tree : SyntaxTree) : List SyntaxTree :=
  if kind = .field ∨ kind = .localVariable then
    declaratorNames tree.children
  else if tree.type = "implicit_parameter" then
    [tree]
  else
    ((inField? "name" tree.children).bind identifier?).toList

/-- The token of a name node. -/
def token (source : Utf8.Octets) (tree : SyntaxTree) : Except Escape.Fault Token := do
  let text := tree.text source
  let value ← Escape.value text
  return { text := text, value := value, start := tree.label.start, stop := tree.label.stop }

/-- The modifiers written on a declaring node. -/
def modifiers (source : Utf8.Octets) (tree : SyntaxTree) : Modifiers :=
  .ofKeywords ((ofType "modifier" tree.children).map (text source))

/-- The declaration that a node of a declaring type makes. -/
def declare (source : Utf8.Octets) (kind : Kind) (tree : SyntaxTree) :
    Except Escape.Fault Declaration := do
  let identifiers ← (nameNodes kind tree).mapM (token source)
  return {
    kind := kind
    modifiers := tree.modifiers source
    identifiers := identifiers
    start := tree.label.start
    stop := tree.label.stop
    nodeType := tree.type }

/--
The start of a parameter without a node of its own: where its attributes or its
keyword begin, after the last comma or parenthesis before the name.
-/
def looseStart (siblings : List SyntaxTree) (name : SyntaxTree) : Nat :=
  let before := siblings.takeWhile fun sibling => decide (sibling.label.start < name.label.start)
  let found := before.foldl
    (fun start sibling =>
      if sibling.type = "," ∨ sibling.type = "(" then none
      else some (start.getD sibling.label.start))
    (none : Option Nat)
  found.getD name.label.start

/-- The declaration of a parameter without a node of its own. -/
def declareLoose (source : Utf8.Octets) (siblings : List SyntaxTree) (name : SyntaxTree) :
    Except Escape.Fault Declaration := do
  let identifier ← name.token source
  return {
    kind := .parameter
    identifiers := [identifier]
    start := looseStart siblings name
    stop := name.label.stop
    nodeType := "params_parameter" }

/-- The sites of a tree in preorder, inside the given enclosing declarations. -/
def sitesIn (source : Utf8.Octets) (enclosing : List Declaration) :
    SyntaxTree → List (Except Escape.Fault Site)
  | node label children =>
    match declaredKind? label.type with
    | none => sitesBelow label.type children enclosing children
    | some kind =>
      match declare source kind (node label children) with
      | .error fault => [.error fault]
      | .ok declaration =>
        .ok ⟨declaration, enclosing⟩ ::
          sitesBelow label.type children (declaration :: enclosing) children
where
  /-- The sites of the children of a node; `siblings` are all of them, of which the rest is read. -/
  sitesBelow (type : String) (siblings : List SyntaxTree) (enclosing : List Declaration) :
      List SyntaxTree → List (Except Escape.Fault Site)
    | [] => []
    | child :: rest =>
      (if type = "parameter_list" ∧ child.type = "identifier" then
        [(declareLoose source siblings child).map (⟨·, enclosing⟩)]
      else
        sitesIn source enclosing child) ++ sitesBelow type siblings enclosing rest

/-- The sites of a tree in preorder. -/
def sites (source : Utf8.Octets) (tree : SyntaxTree) : List (Except Escape.Fault Site) :=
  sitesIn source [] tree

/-- All sites of a tree, or the first fault. -/
def allSites (source : Utf8.Octets) (tree : SyntaxTree) : Except Escape.Fault (List Site) :=
  (sites source tree).mapM id

end SyntaxTree

namespace Site

/-- The place of a site's nearest enclosing site in a list in preorder. -/
def parentIndex? (sites : List Site) (index : Nat) : Option Nat := do
  let site ← sites[index]?
  let earlier := (List.range index).reverse
  earlier.find? fun candidate =>
    match sites[candidate]? with
    | some other => decide (other.enclosing.length + 1 = site.enclosing.length)
    | none => false

end Site

end CasingLint
