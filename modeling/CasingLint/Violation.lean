import CasingLint.Declaration

/-!
# Checking declarations

A declaration under a convention is checked token by token, in order.  A token
whose conforming spelling differs from the spelling in the source is a violation.
-/

namespace CasingLint

/-- A name that differs from the form its convention asks for. -/
structure Violation where
  start : Nat
  stop : Nat
  label : String
  spelling : String
  corrected : String
  convention : Convention
  deriving DecidableEq

namespace Violation

/-- The sentence that reports a violation. -/
def message (violation : Violation) : String :=
  "The " ++ violation.label ++ " " ++ violation.spelling ++
    " does not follow naming conventions. Should be " ++ violation.corrected ++ "."

/-- The violation of one token under a convention, if its spelling has to change. -/
def ofToken? (label : String) (convention : Convention) (token : Token) : Option Violation :=
  let corrected := token.conform convention
  if corrected.text = token.text then none
  else some
    { start := token.start
      stop := token.stop
      label := label
      spelling := token.text
      corrected := corrected.text
      convention := convention }

end Violation

/-- The violations of one declaration, in the order of its names. -/
def Declaration.violations (declaration : Declaration) : List Violation :=
  match declaration.convention? with
  | none => []
  | some convention =>
    declaration.identifiers.filterMap (Violation.ofToken? declaration.kind.label convention)

/-- The violations of many declarations, in order. -/
def checkAll (declarations : List Declaration) : List Violation :=
  declarations.flatMap Declaration.violations

end CasingLint
