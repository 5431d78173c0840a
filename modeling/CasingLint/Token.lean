import CasingLint.Name

/-!
# Identifier tokens

A token keeps the spelling that stands in the source beside the value that the
spelling denotes.  The two differ for a verbatim identifier (`@class` denotes
`class`) and for one spelled with escapes.  Such a token is never renamed,
because its spelling was chosen on purpose.
-/

namespace CasingLint

/-- An identifier in source text, with its UTF-8 byte span and the trivia around it. -/
structure Token where
  text : String
  value : String
  start : Nat := 0
  stop : Nat := 0
  leading : String := ""
  trailing : String := ""
  deriving DecidableEq, Repr

namespace Token

/-- Is the token spelled with the verbatim mark? -/
def isVerbatim (token : Token) : Bool :=
  token.text.toList.head? == some '@'

/-- Is the token spelled with an escape? -/
def isEscaped (token : Token) : Bool :=
  token.text.toList.contains '\\'

/-- Is the token's spelling off limits? -/
def isBypassed (token : Token) : Bool :=
  token.isVerbatim || token.isEscaped

/-- The token with a new spelling that denotes itself, in the same place. -/
def withValue (token : Token) (value : String) : Token :=
  { token with text := value, value := value }

/-- The token in the form that a convention asks for, unless its spelling is off limits. -/
def conform (convention : Convention) (token : Token) : Token :=
  if token.isBypassed then token
  else token.withValue (Name.conformText convention token.value)

end Token

end CasingLint
