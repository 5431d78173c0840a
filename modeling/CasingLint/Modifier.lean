import CasingLint.Text.Blank
import CasingLint.Text.CaseMap

/-!
# Declaration modifiers

Modifiers are read from keywords and form a set.  A keyword is matched after
trimming blanks and in upper case, so that its spelling does not matter; a word
that names no modifier is ignored.
-/

namespace CasingLint

/-- A modifier keyword of a declaration. -/
inductive Modifier where
  | isPublic
  | isInternal
  | isProtected
  | isPrivate
  | isStatic
  | isReadonly
  | isConst
  | isAbstract
  | isVirtual
  | isOverride
  | isSealed
  | isAsync
  | isExtern
  | isNew
  | isPartial
  | isVolatile
  | isUnsafe
  | isRequired
  deriving DecidableEq, Repr

namespace Modifier

/-- All modifiers in their order of significance. -/
def all : List Modifier :=
  [isPublic, isInternal, isProtected, isPrivate, isStatic, isReadonly, isConst, isAbstract,
    isVirtual, isOverride, isSealed, isAsync, isExtern, isNew, isPartial, isVolatile,
    isUnsafe, isRequired]

/-- The upper-case name of a modifier. -/
def name : Modifier → String
  | isPublic => "PUBLIC"
  | isInternal => "INTERNAL"
  | isProtected => "PROTECTED"
  | isPrivate => "PRIVATE"
  | isStatic => "STATIC"
  | isReadonly => "READONLY"
  | isConst => "CONST"
  | isAbstract => "ABSTRACT"
  | isVirtual => "VIRTUAL"
  | isOverride => "OVERRIDE"
  | isSealed => "SEALED"
  | isAsync => "ASYNC"
  | isExtern => "EXTERN"
  | isNew => "NEW"
  | isPartial => "PARTIAL"
  | isVolatile => "VOLATILE"
  | isUnsafe => "UNSAFE"
  | isRequired => "REQUIRED"

/-- The name under which a keyword is looked up: trimmed and in full upper case. -/
def keywordName (keyword : String) : String :=
  String.ofList (Text.upperText (Text.trim keyword.toList))

/-- The modifier that a keyword names. -/
def ofKeyword? (keyword : String) : Option Modifier :=
  all.find? (·.name == keywordName keyword)

theorem mem_all (modifier : Modifier) : modifier ∈ all := by
  cases modifier <;> decide

end Modifier

/-- A set of modifiers, given by membership. -/
structure Modifiers where
  contains : Modifier → Bool

namespace Modifiers

@[ext]
theorem ext {left right : Modifiers}
    (same : ∀ modifier, left.contains modifier = right.contains modifier) :
    left = right := by
  cases left
  cases right
  simpa using funext same

/-- No modifier. -/
def none : Modifiers :=
  ⟨fun _ => false⟩

/-- The modifiers in either set. -/
def union (left right : Modifiers) : Modifiers :=
  ⟨fun modifier => left.contains modifier || right.contains modifier⟩

/-- The modifiers that the keywords name. -/
def ofKeywords (keywords : List String) : Modifiers :=
  ⟨fun modifier => keywords.any (Modifier.ofKeyword? · == some modifier)⟩

/-- The members of the set, in order of significance. -/
def toList (modifiers : Modifiers) : List Modifier :=
  Modifier.all.filter modifiers.contains

/-- The set as a number: the `k`-th modifier counts `2 ^ k`. -/
def toNat (modifiers : Modifiers) : Nat :=
  Modifier.all.foldr
    (fun modifier higher => (if modifiers.contains modifier then 1 else 0) + 2 * higher) 0

@[simp]
theorem contains_none (modifier : Modifier) :
    none.contains modifier = false := rfl

@[simp]
theorem contains_union (left right : Modifiers) (modifier : Modifier) :
    (left.union right).contains modifier =
      (left.contains modifier || right.contains modifier) := rfl

theorem ofKeywords_append (left right : List String) :
    ofKeywords (left ++ right) = (ofKeywords left).union (ofKeywords right) := by
  ext modifier
  simp [ofKeywords]

end Modifiers

end CasingLint
