import CasingLint.Catalogue
import CasingLint.Text.Lines
import CasingLint.Text.Quoted

/-!
# Discovering rules in modules

Rules come in modules with dotted names.  A module that is a package may hold
further modules.  Discovery loads a module, which needs all packages above it, and
registers its rules; then it does the same for everything inside it, depth first and
by name.  Loading can fail, and so can making one of the rules of a module.  Then
discovery ends, keeping what it has registered.
-/

namespace CasingLint

open CasingLint.Text

/--
A module that can be loaded, or that fails with a message.  It lists rules; one that is made only
when it is registered may turn out to be a fault.
-/
structure RuleModule where
  name : String
  isPackage : Bool := false
  rules : List (Except Fault Rule) := []
  failure? : Option String := none

namespace RuleModule

/-- The parts of a dotted name. -/
def nameParts (name : String) : List String :=
  (splitAt '.' name.toList).map String.ofList

/-- The modules that come with the rules; of these only one has a rule. -/
def standard : List RuleModule :=
  [{ name := "namecheck", isPackage := true },
    { name := "namecheck.rules", isPackage := true },
    { name := "namecheck.rules.naming_conventions", rules := [.ok Rule.naming] }]

/-- The module of a name. -/
def find? (modules : List RuleModule) (name : String) : Option RuleModule :=
  modules.find? (·.name == name)

/-- Loads a module whose package, if it has one, has been loaded. -/
def loadInside (modules : List RuleModule) (package? : Option RuleModule) (name : String) :
    Except Fault RuleModule :=
  match package? with
  | some package =>
    if package.isPackage then loadNamed
    else .error (.missingModule ("No module named " ++ quoted name ++ "; " ++
      quoted package.name ++ " is not a package"))
  | none => loadNamed
where
  /-- Loads the module of the name. -/
  loadNamed : Except Fault RuleModule :=
    match find? modules name with
    | none => .error (.missingModule ("No module named " ++ quoted name))
    | some found =>
      match found.failure? with
      | some message => .error (.brokenModule message)
      | none => .ok found

/--
Loads the packages on the way to a module and the module, given the names from
the outermost.
-/
def loadChain (modules : List RuleModule) (package? : Option RuleModule) :
    List String → Except Fault (Option RuleModule)
  | [] => .ok package?
  | name :: names => do
    let found ← loadInside modules package? name
    loadChain modules (some found) names

/-- The names of the packages on the way to a module, and its own. -/
def chainNames (name : String) : List String :=
  let parts := nameParts name
  (List.range parts.length).map fun count => ".".intercalate (parts.take (count + 1))

/-- Loads a module by its name. -/
def load (modules : List RuleModule) (name : String) : Except Fault RuleModule :=
  if name.isEmpty then .error .emptyModuleName
  else if name.toList.head? = some '.' then .error (.relativeModule name)
  else do
    match ← loadChain modules none (chainNames name) with
    | some found => return found
    | none => throw .emptyModuleName

/-- Is a module reached from a package by going through packages only? -/
def isReached (modules : List RuleModule) (package inner : RuleModule) : Bool :=
  let outside := (nameParts package.name).length
  (nameParts package.name).isPrefixOf (nameParts inner.name) &&
    decide (outside < (nameParts inner.name).length) &&
    ((chainNames inner.name).dropLast.drop (outside - 1)).all fun name =>
      (find? modules name).any (·.isPackage)

/-- Does one list of parts come before another, or equal it, compared part by part? -/
def partsLe : List String → List String → Bool
  | [], _ => true
  | _ :: _, [] => false
  | left :: lefts, right :: rights =>
    decide (left < right) || (left == right && partsLe lefts rights)

/-- The modules inside a package, depth first and by name. -/
def inside (modules : List RuleModule) (package : RuleModule) : List RuleModule :=
  (modules.filter (isReached modules package)).mergeSort fun left right =>
    partsLe (nameParts left.name) (nameParts right.name)

end RuleModule

namespace Catalogue

/--
What discovery leaves behind: the catalogue, the log rows, and why it ended early
if it did.
-/
structure Discovery where
  catalogue : Catalogue
  rows : List Log := []
  fault? : Option Fault := none

namespace Discovery

/-- Registers rules in order, up to the first that turns out to be a fault. -/
def registerAll (state : Discovery) : List (Except Fault Rule) → Discovery
  | [] => state
  | .error fault :: _ => { state with fault? := some fault }
  | .ok rule :: rest =>
    registerAll
      { state with
        catalogue := state.catalogue.register rule
        rows := state.rows ++ state.catalogue.registerRows rule }
      rest

/-- Loads modules by name and registers their rules, up to the first fault. -/
def visitAll (modules : List RuleModule) (state : Discovery) : List String → Discovery
  | [] => state
  | name :: names =>
    match RuleModule.load modules name with
    | .error fault => { state with fault? := some fault }
    | .ok found =>
      let visited := state.registerAll found.rules
      match visited.fault? with
      | some _ => visited
      | none => visitAll modules visited names

/-- The names of a module and of everything inside it, in the order in which they are visited. -/
def visited (modules : List RuleModule) (name : String) : List String :=
  match RuleModule.load modules name with
  | .error _ => [name]
  | .ok found => name :: (RuleModule.inside modules found).map RuleModule.name

/-- How many rules there are more than there were in a catalogue. -/
def added (state : Discovery) (before : Catalogue) : Nat :=
  state.catalogue.rules.length - before.rules.length

/-- How many rules were added to a catalogue, or why discovery ended early. -/
def outcome (state : Discovery) (before : Catalogue) : Except Fault Nat :=
  match state.fault? with
  | some fault => .error fault
  | none => .ok (state.added before)

end Discovery

/-- Registers the rules of modules and of everything inside them. -/
def discover (catalogue : Catalogue) (modules : List RuleModule) (names : List String) :
    Discovery :=
  let state := Discovery.visitAll modules { catalogue := catalogue }
    (names.flatMap (Discovery.visited modules))
  match state.fault? with
  | some _ => state
  | none =>
    { state with rows := state.rows ++ [⟨.debug, .catalogue, "Discovered " ++
        toString (state.added catalogue) ++ " rule(s) in " ++ ", ".intercalate names⟩] }

end Catalogue

end CasingLint
