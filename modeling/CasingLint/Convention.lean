/-!
# Casing conventions

The four shapes that a declaration's name can be required to have.  Each has a
label, which is the convention's own name written in its own shape.
-/

namespace CasingLint

/-- A casing rule for names. -/
inductive Convention where
  | lowerCamel
  | upperCamel
  | underscoreLowerCamel
  | interfaceUpperCamel
  deriving DecidableEq, Repr

namespace Convention

/-- All conventions, in the order in which reports list them. -/
def all : List Convention :=
  [lowerCamel, upperCamel, underscoreLowerCamel, interfaceUpperCamel]

/-- The name of a convention, itself an example of the convention. -/
def label : Convention → String
  | lowerCamel => "lowerCamelCase"
  | upperCamel => "UpperCamelCase"
  | underscoreLowerCamel => "_lowerCamelCase"
  | interfaceUpperCamel => "IUpperCamelCase"

/-- The convention with a given label. -/
def ofLabel? (text : String) : Option Convention :=
  all.find? (·.label == text)

theorem mem_all (convention : Convention) : convention ∈ all := by
  cases convention <;> decide

@[simp]
theorem ofLabel?_label (convention : Convention) :
    ofLabel? convention.label = some convention := by
  cases convention <;> decide

end Convention

end CasingLint
