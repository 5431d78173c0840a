import CasingLint.Modifier
import CasingLint.Token

/-!
# Declarations and the convention policy

A declaration has a kind, modifiers and the tokens of the names it binds.  The
policy maps kind and modifiers to the convention that the names must follow.
Only for fields do the modifiers matter: a field that is visible outside its
type is named like a member, any other field starts with an underscore.
-/

namespace CasingLint

/-- The kinds of declaration that the policy tells apart. -/
inductive Kind where
  | property
  | method
  | classType
  | structType
  | interfaceType
  | field
  | localVariable
  | parameter
  | other
  deriving DecidableEq, Repr

namespace Kind

/-- All kinds. -/
def all : List Kind :=
  [property, method, classType, structType, interfaceType, field, localVariable, parameter, other]

/-- The word for a kind. -/
def name : Kind → String
  | property => "property"
  | method => "method"
  | classType => "class"
  | structType => "struct"
  | interfaceType => "interface"
  | field => "field"
  | localVariable => "local"
  | parameter => "parameter"
  | other => "other"

/-- The kind that a word names. -/
def ofName? (text : String) : Option Kind :=
  all.find? (·.name == text)

/-- The word used for a kind in messages; empty for kinds outside the policy. -/
def label : Kind → String
  | other => ""
  | kind => kind.name

end Kind

/-- Does one of the modifiers open a member to code outside its type? -/
def Modifiers.isVisible (modifiers : Modifiers) : Bool :=
  modifiers.contains .isInternal || modifiers.contains .isProtected ||
    modifiers.contains .isPublic

/-- The convention that governs the names of a declaration, if any does. -/
def Kind.convention? (kind : Kind) (modifiers : Modifiers) : Option Convention :=
  match kind with
  | .property | .method | .classType | .structType => some .upperCamel
  | .localVariable | .parameter => some .lowerCamel
  | .interfaceType => some .interfaceUpperCamel
  | .field => some (if modifiers.isVisible then .upperCamel else .underscoreLowerCamel)
  | .other => none

/-- A declaration in source text, with its UTF-8 byte span and the syntax node it came from. -/
structure Declaration where
  kind : Kind
  modifiers : Modifiers := .none
  identifiers : List Token := []
  start : Nat := 0
  stop : Nat := 0
  nodeType : String := ""

/-- The convention that governs a declaration. -/
def Declaration.convention? (declaration : Declaration) : Option Convention :=
  declaration.kind.convention? declaration.modifiers

end CasingLint
