import CasingLint.Edit
import CasingLint.SyntaxTree.Site

/-!
# Renaming at a place

The name at a place in the source is renamed under the convention of the nearest
declaration around it that has one.  That is its own declaration, unless this is of
a kind outside the policy.
-/

namespace CasingLint

open CasingLint.Text

namespace Site

/-- The convention of the nearest declaration that has one. -/
def governing? (site : Site) : Option Convention :=
  site.chain.findSome? Declaration.convention?

/-- The name of a site that covers an octet. -/
def tokenAt? (site : Site) (offset : Int) : Option Token :=
  site.declaration.identifiers.find? fun token =>
    decide ((token.start : Int) ≤ offset) && decide (offset < (token.stop : Int))

end Site

/--
The first declared name that covers an octet, with its site.  Sites are read only
up to it, so a fault matters only before it.
-/
def findName (offset : Int) :
    List (Except Escape.Fault Site) → Except Escape.Fault (Option (Site × Token))
  | [] => .ok none
  | .error fault :: _ => .error fault
  | .ok site :: rest =>
    match site.tokenAt? offset with
    | some token => .ok (some (site, token))
    | none => findName offset rest

/-- The edit that renames a declared name, if its spelling has to change. -/
def Site.renameEdit? (site : Site) (token : Token) : Option Edit :=
  match site.governing? with
  | none => none
  | some convention =>
    let renamed := token.conform convention
    if renamed.text = token.text then none
    else some ⟨token.start, token.stop, renamed.text⟩

/-- The declared name that covers an octet. -/
def tokenAt (source : Utf8.Octets) (tree : SyntaxTree) (offset : Int) :
    Except Escape.Fault (Option Token) := do
  let found ← findName offset (tree.sites source)
  return found.map Prod.snd

/-- The edit that renames the name covering an octet, if there is one that has to change. -/
def renameEdit (source : Utf8.Octets) (tree : SyntaxTree) (offset : Int) :
    Except Escape.Fault (Option Edit) := do
  let found ← findName offset (tree.sites source)
  return found.bind fun (site, token) => site.renameEdit? token

end CasingLint
