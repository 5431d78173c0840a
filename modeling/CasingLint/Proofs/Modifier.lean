import CasingLint.Declaration
import Mathlib.Data.List.Basic
import Mathlib.Data.List.Induction
import Mathlib.Data.Nat.Bitwise

/-!
# Modifiers as a set

The keywords of a declaration are read one after the other, and each that names a modifier adds
it to those before.  This module says that only the names matter: neither their order, nor how
often they come, nor the words between them that name nothing.

A set of modifiers is also a number with one binary digit for each modifier.  Sets are joined
by the bitwise or of their numbers, and the bitwise and with a mask tells whether one of the
modifiers of the mask is in a set.  The name `NONE` stands for the empty set.
-/

namespace CasingLint

/-! ## Names -/

namespace Modifier

theorem find?_name (modifier : Modifier) :
    all.find? (·.name == modifier.name) = some modifier := by
  cases modifier <;> rfl

theorem ofKeyword?_eq_some_iff {keyword : String} {modifier : Modifier} :
    ofKeyword? keyword = some modifier ↔ keywordName keyword = modifier.name := by
  constructor
  · intro found
    have named := List.find?_some found
    exact (beq_iff_eq.mp named).symm
  · intro named
    rw [ofKeyword?, named, find?_name]

/-- The number of the set that has only one modifier. -/
def flag (modifier : Modifier) : Nat :=
  2 ^ all.idxOf modifier

/-- The number of the set that a name stands for, if it stands for one. -/
def flagOfName? (name : String) : Option Nat :=
  if name = "NONE" then some 0 else (all.find? (·.name == name)).map flag

theorem flagOfName?_of_some {keyword : String} {modifier : Modifier}
    (named : ofKeyword? keyword = some modifier) :
    flagOfName? (keywordName keyword) = some modifier.flag := by
  have different : modifier.name ≠ "NONE" := by
    cases modifier <;> decide
  rw [ofKeyword?_eq_some_iff.mp named, flagOfName?, if_neg different, find?_name, Option.map_some]

theorem flagOfName?_of_none {keyword : String} (unnamed : ofKeyword? keyword = none) :
    flagOfName? (keywordName keyword) =
      if keywordName keyword = "NONE" then some 0 else none := by
  rw [ofKeyword?] at unnamed
  rw [flagOfName?, unnamed, Option.map_none]

end Modifier

namespace Modifiers

variable {modifiers : Modifiers} {modifier : Modifier} {keywords others : List String}

theorem contains_ofKeywords_iff :
    (ofKeywords keywords).contains modifier = true ↔
      ∃ keyword ∈ keywords, Modifier.keywordName keyword = modifier.name := by
  simp [ofKeywords, Modifier.ofKeyword?_eq_some_iff]

/-- Keywords give the same set exactly if they name the same modifiers. -/
theorem ofKeywords_eq_iff :
    ofKeywords keywords = ofKeywords others ↔
      ∀ modifier : Modifier,
        (∃ keyword ∈ keywords, Modifier.keywordName keyword = modifier.name) ↔
          ∃ keyword ∈ others, Modifier.keywordName keyword = modifier.name := by
  constructor
  · intro same modifier
    rw [← contains_ofKeywords_iff, same, contains_ofKeywords_iff]
  · intro same
    ext modifier
    rw [Bool.eq_iff_iff, contains_ofKeywords_iff, contains_ofKeywords_iff]
    exact same modifier

/-! ## Numbers -/

/-- The digit for a modifier says whether it is in the set. -/
theorem testBit_digits (modifiers : Modifiers) (significant : List Modifier) (place : Nat) :
    (significant.foldr (fun modifier higher =>
      (if modifiers.contains modifier then 1 else 0) + 2 * higher) 0).testBit place =
        significant[place]?.any modifiers.contains := by
  induction significant generalizing place with
  | nil => simp
  | cons modifier higher ih =>
      rw [List.foldr_cons]
      -- The last digit is the remainder by two, and the others are those of the half.
      cases place with
      | zero =>
          rw [Nat.testBit_zero, List.getElem?_cons_zero, Option.any_some]
          cases modifiers.contains modifier <;> simp
      | succ place =>
          rw [Nat.testBit_succ, List.getElem?_cons_succ, ← ih]
          congr 1
          split <;> omega

theorem testBit_toNat (modifiers : Modifiers) (place : Nat) :
    modifiers.toNat.testBit place = Modifier.all[place]?.any modifiers.contains :=
  testBit_digits modifiers Modifier.all place

/-- The number of a union is the bitwise or of the numbers. -/
theorem toNat_union (left right : Modifiers) :
    (left.union right).toNat = left.toNat ||| right.toNat := by
  apply Nat.eq_of_testBit_eq
  intro place
  rw [Nat.testBit_or, testBit_toNat, testBit_toNat, testBit_toNat]
  cases Modifier.all[place]? with
  | none => rfl
  | some modifier => rfl

theorem toNat_only (modifier : Modifier) :
    (Modifiers.mk fun other => other == modifier).toNat = modifier.flag := by
  cases modifier <;> rfl

/-- The bitwise and with the flag of a modifier tells whether it is in the set. -/
theorem toNat_and_flag_ne_zero_iff :
    modifiers.toNat &&& modifier.flag ≠ 0 ↔ modifiers.contains modifier = true := by
  have digit : modifiers.toNat.testBit (Modifier.all.idxOf modifier) =
      modifiers.contains modifier := by
    rw [testBit_toNat, List.getElem?_idxOf modifier.mem_all, Option.any_some]
  rw [Modifier.flag, Nat.and_two_pow, digit]
  cases modifiers.contains modifier <;> simp

/-! ## Keywords one after the other -/

/-- The number of a set with what one more keyword stands for. -/
def addFlag (number : Nat) (keyword : String) : Nat :=
  match Modifier.flagOfName? (Modifier.keywordName keyword) with
  | some flag => number ||| flag
  | .none => number

theorem toNat_ofKeyword_of_some {keyword : String}
    (named : Modifier.ofKeyword? keyword = some modifier) :
    (ofKeywords [keyword]).toNat = modifier.flag := by
  have only : ofKeywords [keyword] = Modifiers.mk fun other => other == modifier := by
    ext other
    rw [Bool.eq_iff_iff, contains_ofKeywords_iff]
    simp only [List.mem_singleton, exists_eq_left, ← Modifier.ofKeyword?_eq_some_iff, named,
      Option.some_inj, beq_iff_eq]
    exact eq_comm
  rw [only, toNat_only]

theorem toNat_ofKeyword_of_none {keyword : String}
    (unnamed : Modifier.ofKeyword? keyword = .none) :
    (ofKeywords [keyword]).toNat = 0 := by
  have empty : ofKeywords [keyword] = none := by
    ext other
    rw [contains_none, Bool.eq_false_iff, ne_eq, contains_ofKeywords_iff]
    simp only [List.mem_singleton, exists_eq_left, ← Modifier.ofKeyword?_eq_some_iff, unnamed,
      reduceCtorEq, not_false_eq_true]
  rw [empty]
  rfl

theorem addFlag_eq (number : Nat) (keyword : String) :
    addFlag number keyword = number ||| (ofKeywords [keyword]).toNat := by
  rw [addFlag]
  cases named : Modifier.ofKeyword? keyword with
  | some modifier =>
      rw [Modifier.flagOfName?_of_some named, toNat_ofKeyword_of_some named]
  | none =>
      rw [Modifier.flagOfName?_of_none named, toNat_ofKeyword_of_none named, Nat.or_zero]
      split_ifs
      · exact Nat.or_zero number
      · rfl

/-- The set of keywords as a number, got by adding their flags. -/
theorem toNat_ofKeywords (keywords : List String) :
    (ofKeywords keywords).toNat = keywords.foldl addFlag 0 := by
  induction keywords using List.reverseRecOn with
  | nil => rfl
  | append_singleton earlier keyword ih =>
      rw [ofKeywords_append, toNat_union, ih, List.foldl_concat, addFlag_eq]

/-! ## Visible members -/

/-- The modifiers that open a member to code outside its type, as a number. -/
def visibleFlags : Nat :=
  Modifier.isInternal.flag ||| Modifier.isProtected.flag ||| Modifier.isPublic.flag

theorem isVisible_iff_flags :
    modifiers.isVisible = true ↔ modifiers.toNat &&& visibleFlags ≠ 0 := by
  rw [visibleFlags, Nat.and_or_distrib_left, Nat.and_or_distrib_left, isVisible]
  simp only [Bool.or_eq_true, ← toNat_and_flag_ne_zero_iff]
  simp only [ne_eq, Nat.or_eq_zero_iff, not_and_or]

theorem isVisible_ofKeywords_iff :
    (ofKeywords keywords).isVisible = true ↔
      ∃ keyword ∈ keywords,
        Modifier.keywordName keyword ∈ ["PUBLIC", "INTERNAL", "PROTECTED"] := by
  simp only [isVisible, Bool.or_eq_true, contains_ofKeywords_iff]
  constructor
  · rintro ((⟨keyword, among, named⟩ | ⟨keyword, among, named⟩) | ⟨keyword, among, named⟩) <;>
      exact ⟨keyword, among, by rw [named]; decide⟩
  · rintro ⟨keyword, among, named⟩
    simp only [List.mem_cons, List.not_mem_nil, or_false] at named
    rcases named with isPublic | isInternal | isProtected
    · exact Or.inr ⟨keyword, among, isPublic⟩
    · exact Or.inl (Or.inl ⟨keyword, among, isInternal⟩)
    · exact Or.inl (Or.inr ⟨keyword, among, isProtected⟩)

theorem fieldConvention_eq_upperCamel_iff :
    Kind.field.convention? modifiers = some .upperCamel ↔ modifiers.isVisible = true := by
  rw [Kind.convention?]
  cases modifiers.isVisible <;> simp

theorem fieldConvention_eq_underscore_iff :
    Kind.field.convention? modifiers = some .underscoreLowerCamel ↔
      ¬ modifiers.isVisible = true := by
  rw [Kind.convention?]
  cases modifiers.isVisible <;> simp

/--
Reading keywords is reading a set.  Lists of keywords behind each other give the union of their
sets, which is the bitwise or of their numbers, and reading one keyword after the other gives
the same number.  Two lists give the same set exactly if the same modifiers are named in them.
The names of fields start with a letter of upper case if one of three modifiers is named, and
with an underscore otherwise; the bitwise and with a mask tells which.
-/
theorem ofKeywords_isSetReading (keywords others : List String) :
    ofKeywords (keywords ++ others) = (ofKeywords keywords).union (ofKeywords others) ∧
      (ofKeywords (keywords ++ others)).toNat =
        (ofKeywords keywords).toNat ||| (ofKeywords others).toNat ∧
      (ofKeywords keywords).toNat = keywords.foldl addFlag 0 ∧
      (ofKeywords keywords = ofKeywords others ↔
        ∀ modifier : Modifier,
          (∃ keyword ∈ keywords, Modifier.keywordName keyword = modifier.name) ↔
            ∃ keyword ∈ others, Modifier.keywordName keyword = modifier.name) ∧
      (Kind.field.convention? (ofKeywords keywords) = some .upperCamel ↔
        (ofKeywords keywords).toNat &&& visibleFlags ≠ 0) ∧
      (Kind.field.convention? (ofKeywords keywords) = some .upperCamel ↔
        ∃ keyword ∈ keywords,
          Modifier.keywordName keyword ∈ ["PUBLIC", "INTERNAL", "PROTECTED"]) ∧
      (Kind.field.convention? (ofKeywords keywords) = some .underscoreLowerCamel ↔
        ¬ ∃ keyword ∈ keywords,
          Modifier.keywordName keyword ∈ ["PUBLIC", "INTERNAL", "PROTECTED"]) := by
  have joined := ofKeywords_append keywords others
  refine ⟨joined, ?_, toNat_ofKeywords keywords, ofKeywords_eq_iff, ?_, ?_, ?_⟩
  · rw [joined, toNat_union]
  · rw [fieldConvention_eq_upperCamel_iff, isVisible_iff_flags]
  · rw [fieldConvention_eq_upperCamel_iff, isVisible_ofKeywords_iff]
  · rw [fieldConvention_eq_underscore_iff, isVisible_ofKeywords_iff]

/-- Blanks and case do not count, a ligature is two letters, and two words name no modifier. -/
example :
    (ofKeywords ["None", "\tPublic", "ﬆatic ", "file", "PUBLIC"]).toNat = 1 + 16 := by
  decide +kernel

end Modifiers

end CasingLint
