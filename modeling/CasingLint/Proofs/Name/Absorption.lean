import CasingLint.Declaration
import CasingLint.Proofs.Name.Idempotence
import Mathlib.Data.List.Induction
import Mathlib.Tactic.ByContra

/-!
# Conforming under changing conventions

A field that is made public, and private again later, is renamed under one convention after
the other.  Whether the name still shows which conventions it went through depends on its
first letter only.  The three conventions without a mark for interfaces absorb one another
exactly if the first character of the normal form is stable: raising and lowering it leads to
one pair of cases, and a character in neither case is not changed at all.

Each of the three conventions leaves a name whose normal form is the old one but for the first
character.  So the law comes down to what raising and lowering make of one character: the
next convention looks at the two cases of the character it finds, and if these are the cases
of the first character, the convention between has left no trace.
-/

namespace CasingLint.Name

open CasingLint.Text

/-- A character that belongs to one pair of cases, or to none. -/
structure IsCaseStable (character : Char) : Prop where
  lowered : oneLower (oneUpper character) = oneLower character
  raised : oneUpper (oneLower character) = oneUpper character
  settled : (isUpper character = true ∨ isLower character = true) ∨
    oneUpper character = character ∧ oneLower character = character

/-! ## Characters with the same cases -/

/-- Two characters that no convention but that for interfaces tells apart at the front. -/
structure SharesCases (entry first : Char) : Prop where
  lowered : oneLower entry = oneLower first
  raised : oneUpper entry = oneUpper first
  settled : IsCased entry ∧ IsCased first ∨ entry = first

theorem shape_eq_of_sharesCases {convention : Convention} {entry first : Char}
    (uniform : convention ≠ .interfaceUpperCamel)
    (shares : SharesCases entry first) (rest : List Char) :
    shape convention entry rest = shape convention first rest := by
  cases convention with
  | lowerCamel => simp only [shape, shares.lowered]
  | upperCamel => simp only [shape, shares.raised]
  | underscoreLowerCamel =>
      rcases shares.settled with ⟨entryCased, firstCased⟩ | rfl
      · rw [shape_underscore_of_isCased rest entryCased,
          shape_underscore_of_isCased rest firstCased, shares.lowered]
      · rfl
  | interfaceUpperCamel => contradiction

namespace IsCaseStable

variable {first : Char}

theorem sharesCases_oneLower (stable : IsCaseStable first) :
    SharesCases (oneLower first) first where
  lowered := oneLower_oneLower first
  raised := stable.raised
  settled := by
    rcases stable.settled with cased | ⟨-, same⟩
    · exact Or.inl ⟨IsCased.oneLower cased, cased⟩
    · exact Or.inr same

theorem sharesCases_oneUpper (stable : IsCaseStable first) :
    SharesCases (oneUpper first) first where
  lowered := stable.lowered
  raised := oneUpper_oneUpper first
  settled := by
    rcases stable.settled with cased | ⟨same, -⟩
    · exact Or.inl ⟨IsCased.oneUpper cased, cased⟩
    · exact Or.inr same

end IsCaseStable

/-! ## One convention after another -/

section Shapes

variable {first : Char} {rest : List Char}

/-- A stable first character hides the convention that came before. -/
theorem conform_shape_of_isCaseStable {earlier later : Convention}
    (earlierUniform : earlier ≠ .interfaceUpperCamel)
    (laterUniform : later ≠ .interfaceUpperCamel)
    (worded : IsWorded (first :: rest)) (stable : IsCaseStable first) :
    conform later (shape earlier first rest) = shape later first rest := by
  cases earlier with
  | lowerCamel =>
      rw [conform_shape_lower later worded]
      exact shape_eq_of_sharesCases laterUniform stable.sharesCases_oneLower rest
  | upperCamel =>
      rw [conform_shape_upper later worded]
      exact shape_eq_of_sharesCases laterUniform stable.sharesCases_oneUpper rest
  | underscoreLowerCamel =>
      by_cases cased : IsCased first
      · rw [conform_shape_marked later worded cased, stable.raised]
        exact shape_eq_of_sharesCases laterUniform stable.sharesCases_oneUpper rest
      · exact conform_shape_unmarked later worded cased
  | interfaceUpperCamel => contradiction

/--
Two pairs of conventions compare the round trips, and the underscore convention shows a
character in neither case that has a case to go to.
-/
theorem isCaseStable_of_absorbs (worded : IsWorded (first :: rest))
    (absorbs : ∀ earlier later : Convention,
      earlier ≠ .interfaceUpperCamel → later ≠ .interfaceUpperCamel →
        conform later (shape earlier first rest) = shape later first rest) :
    IsCaseStable first := by
  have word : isWord first = true := (isWorded_cons.mp worded).1
  constructor
  case lowered =>
    have trip := absorbs .upperCamel .lowerCamel (by decide) (by decide)
    rw [conform_shape_upper .lowerCamel worded] at trip
    exact (List.cons.inj trip).1
  case raised =>
    have trip := absorbs .lowerCamel .upperCamel (by decide) (by decide)
    rw [conform_shape_lower .upperCamel worded] at trip
    exact (List.cons.inj trip).1
  case settled =>
    rw [or_iff_not_imp_left]
    intro uncased
    -- A mark in the place of an uncased character would be the character itself.
    have unmarked {entry : Char} (cased : IsCased entry) :
        shape .underscoreLowerCamel entry rest ≠ shape .underscoreLowerCamel first rest := by
      rw [shape_underscore_of_isCased rest cased, shape_underscore_of_not_isCased rest uncased]
      intro same
      exact ne_underscore_of_isWord word (List.cons.inj same).1.symm
    constructor
    · by_contra changed
      have trip := absorbs .upperCamel .underscoreLowerCamel (by decide) (by decide)
      rw [conform_shape_upper .underscoreLowerCamel worded] at trip
      exact unmarked (Or.inl (isUpper_oneUpper changed)) trip
    · by_contra changed
      have trip := absorbs .lowerCamel .underscoreLowerCamel (by decide) (by decide)
      rw [conform_shape_lower .underscoreLowerCamel worded] at trip
      exact unmarked (Or.inr (isLower_oneLower changed)) trip

end Shapes

/-! ## Names that forget their conventions -/

/-- A name that shows no convention but the last, as long as none of them is for interfaces. -/
def Absorbs (name : String) : Prop :=
  ∀ earlier later : Convention,
    earlier ≠ .interfaceUpperCamel → later ≠ .interfaceUpperCamel →
      conformText later (conformText earlier name) = conformText later name

theorem conformText_of_normalize {name : String} {first : Char} {rest : List Char}
    (convention : Convention) (plain : isPlain name.toList = true)
    (normal : normalize name.toList = first :: rest) :
    conformText convention name = String.ofList (shape convention first rest) := by
  simp only [conformText, conform, plain, normal, if_true]

theorem absorbs_iff {name : String} {first : Char} {rest : List Char}
    (plain : isPlain name.toList = true) (normal : normalize name.toList = first :: rest) :
    Absorbs name ↔ IsCaseStable first := by
  have worded : IsWorded (first :: rest) := by
    rw [← normal]
    exact isWorded_normalize plain
  have texts (earlier later : Convention) :
      conformText later (conformText earlier name) = conformText later name ↔
        conform later (shape earlier first rest) = shape later first rest := by
    rw [conformText_of_normalize earlier plain normal, conformText_of_normalize later plain normal,
      conformText, String.toList_ofList, String.ofList_inj]
  simp only [Absorbs, texts]
  constructor
  · exact isCaseStable_of_absorbs worded
  · intro stable earlier later earlierUniform laterUniform
    exact conform_shape_of_isCaseStable earlierUniform laterUniform worded stable

/-- The name after being put in order under each of the conventions in turn. -/
def conformThrough (conventions : List Convention) (name : String) : String :=
  conventions.foldl (fun current convention => conformText convention current) name

theorem Absorbs.conformText_conformThrough {name : String} {last : Convention}
    {conventions : List Convention} (absorbs : Absorbs name)
    (uniform : ∀ convention ∈ conventions, convention ≠ .interfaceUpperCamel)
    (lastUniform : last ≠ .interfaceUpperCamel) :
    conformText last (conformThrough conventions name) = conformText last name := by
  -- From the right: the last convention of the row has already absorbed the ones before it.
  induction conventions using List.reverseRecOn generalizing last with
  | nil => rfl
  | append_singleton earlier recent ih =>
      rcases List.forall_mem_append.mp uniform with ⟨earlierUniform, recentUniform⟩
      have recentOther : recent ≠ .interfaceUpperCamel := recentUniform recent List.mem_cons_self
      have step : conformThrough (earlier ++ [recent]) name = conformText recent name := by
        rw [conformThrough, List.foldl_append]
        exact ih earlierUniform recentOther
      rw [step]
      exact absorbs recent last recentOther lastUniform

end CasingLint.Name

namespace CasingLint

theorem Kind.ne_interface_of_field {modifiers : Modifiers} {convention : Convention}
    (governed : Kind.field.convention? modifiers = some convention) :
    convention ≠ .interfaceUpperCamel := by
  simp only [Kind.convention?, Option.some.injEq] at governed
  split_ifs at governed
  · rw [← governed]
    decide
  · rw [← governed]
    decide

/--
For a plain name whose normal form is not empty, the three conventions without a mark for
interfaces absorb one another exactly if its first character is stable.  Then the name of a
field that is put in order after every change of the field's modifiers is the name that is
put in order once, for the last modifiers.
-/
theorem conformText_absorbs_iff {name : String} {first : Char} {rest : List Char}
    (plain : ∀ character ∈ name.toList, Name.isWord character = true ∨ character = '_')
    (normal : Name.normalize name.toList = first :: rest) :
    ((∀ earlier later : Convention,
        earlier ≠ .interfaceUpperCamel → later ≠ .interfaceUpperCamel →
          Name.conformText later (Name.conformText earlier name) =
            Name.conformText later name) ↔
      Name.IsCaseStable first) ∧
    (Name.IsCaseStable first →
      ∀ (history : List Modifiers) (modifiers : Modifiers) (convention : Convention),
        Kind.field.convention? modifiers = some convention →
          Name.conformText convention
              (Name.conformThrough (history.filterMap Kind.field.convention?) name) =
            Name.conformText convention name) := by
  have absorbsIff := Name.absorbs_iff (Name.isPlain_iff.mpr plain) normal
  refine ⟨absorbsIff, ?_⟩
  intro stable history modifiers convention governed
  apply (absorbsIff.mpr stable).conformText_conformThrough
  · intro earlier member
    rcases List.mem_filterMap.mp member with ⟨past, -, pastGoverned⟩
    exact Kind.ne_interface_of_field pastGoverned
  · exact Kind.ne_interface_of_field governed

/-- A sharp s is in one case only and is stable, also behind an underscore. -/
theorem conformText_absorbs_sharp :
    (∀ character ∈ "_ßeta_1".toList, Name.isWord character = true ∨ character = '_') ∧
      Name.normalize "_ßeta_1".toList = 'ß' :: "eta1".toList ∧
      (∀ earlier later : Convention,
        earlier ≠ .interfaceUpperCamel → later ≠ .interfaceUpperCamel →
          Name.conformText later (Name.conformText earlier "_ßeta_1") =
            Name.conformText later "_ßeta_1") ∧
      Name.conformText .underscoreLowerCamel
          (Name.conformThrough
            ([.ofKeywords ["public"], .none].filterMap Kind.field.convention?) "_ßeta_1") =
        Name.conformText .underscoreLowerCamel "_ßeta_1" := by
  have plain :
      ∀ character ∈ "_ßeta_1".toList, Name.isWord character = true ∨ character = '_' :=
    Name.isPlain_iff.mp (by decide +kernel)
  have normal : Name.normalize "_ßeta_1".toList = 'ß' :: "eta1".toList := by
    decide +kernel
  have stable : Name.IsCaseStable 'ß' :=
    ⟨by decide +kernel, by decide +kernel, by decide +kernel⟩
  have absorbs := conformText_absorbs_iff plain normal
  exact ⟨plain, normal, absorbs.1.mpr stable, absorbs.2 stable _ .none _ rfl⟩

/-- A dotless `ı` is not stable: it gets a dot on the way through upper case. -/
example :
    Name.conformText .lowerCamel "ıota" = "ıota" ∧
      Name.conformText .lowerCamel (Name.conformText .upperCamel "ıota") = "iota" := by
  decide +kernel

end CasingLint
