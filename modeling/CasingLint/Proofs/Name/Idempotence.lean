import CasingLint.Proofs.Text.CaseTables
import CasingLint.Token
import Mathlib.Tactic.SplitIfs

/-!
# Conforming twice

A name in the form that a convention asks for should not be asked to change again.
Three of the conventions keep that promise for every name.  The convention with a
leading underscore keeps it exactly for the names that do not start one way: its
second pass reads the underscore as a boundary and raises the letter after it, and
a few lower-case letters do not come back from upper case.

The normal form of a plain name is a list of word characters, and normalizing such
a list changes nothing.  Hence the second pass sees the same characters as the
first, and each law reduces to how the convention's shape acts on its own result.
-/

namespace CasingLint.Text

/-- A lower-case character that is another one after being raised and lowered again. -/
def isOneWay (character : Char) : Bool :=
  isLower character && oneLower (oneUpper character) != character

theorem isOneWay_eq_false_of_isUpper {character : Char}
    (upper : isUpper character = true) :
    isOneWay character = false := by
  cases lower : isLower character with
  | false => simp [isOneWay, lower]
  | true =>
      simp [isOneWay, lower, oneUpper_of_isUpper upper, oneLower_of_isLower lower]

theorem isOneWay_eq_false_iff_of_isLower {character : Char}
    (lower : isLower character = true) :
    isOneWay character = false ↔ oneLower (oneUpper character) = character := by
  simp [isOneWay, lower]

end CasingLint.Text

namespace CasingLint.Name

open CasingLint.Text

/-! ## Plain names and their normal forms -/

/-- A name of letters and numerals only. -/
def IsWorded (name : List Char) : Prop :=
  ∀ character ∈ name, isWord character = true

@[simp]
theorem isWorded_cons {character : Char} {rest : List Char} :
    IsWorded (character :: rest) ↔ isWord character = true ∧ IsWorded rest := by
  simp [IsWorded]

theorem isPlain_iff {name : List Char} :
    isPlain name = true ↔ ∀ character ∈ name, isWord character = true ∨ character = '_' := by
  simp [isPlain, hasSpecial]

theorem not_isWord_underscore : isWord '_' = false := by
  decide +kernel

theorem not_isWord_verbatimMark : isWord '@' = false := by
  decide +kernel

theorem not_isWord_backslash : isWord '\\' = false := by
  decide +kernel

theorem isWord_interfaceMark : isWord 'I' = true := by
  decide +kernel

theorem ne_underscore_of_isWord {character : Char}
    (word : isWord character = true) :
    character ≠ '_' := by
  rintro rfl
  rw [not_isWord_underscore] at word
  contradiction

theorem isPlain_of_isWorded {name : List Char}
    (worded : IsWorded name) :
    isPlain name = true :=
  isPlain_iff.mpr fun character member => Or.inl (worded character member)

theorem isWorded_normalizeAfter {name : List Char}
    (plain : ∀ character ∈ name, isWord character = true ∨ character = '_')
    (boundary : Bool) :
    IsWorded (normalizeAfter boundary name) := by
  induction name generalizing boundary with
  | nil =>
      intro character member
      simp at member
  | cons character rest ih =>
      have restWorded := ih fun other member => plain other (List.mem_cons_of_mem _ member)
      rw [normalizeAfter]
      split_ifs with underscore raised word
      · exact restWorded true
      · have word : isWord character = true :=
          (plain character List.mem_cons_self).resolve_right underscore
        exact isWorded_cons.mpr ⟨isWord_oneUpper word, restWorded false⟩
      · exact isWorded_cons.mpr ⟨word, restWorded false⟩
      · exact restWorded false

theorem isWorded_normalize {name : List Char}
    (plain : isPlain name = true) :
    IsWorded (normalize name) :=
  isWorded_normalizeAfter (isPlain_iff.mp plain) false

theorem normalize_of_isWorded {name : List Char}
    (worded : IsWorded name) :
    normalize name = name := by
  induction name with
  | nil => rfl
  | cons character rest ih =>
      rcases isWorded_cons.mp worded with ⟨word, restWorded⟩
      have tail : normalizeAfter false rest = rest := ih restWorded
      simp [normalize, normalizeAfter, ne_underscore_of_isWord word, word, tail]

theorem normalizeAfter_eq_nil_iff {name : List Char}
    (plain : ∀ character ∈ name, isWord character = true ∨ character = '_')
    (boundary : Bool) :
    normalizeAfter boundary name = [] ↔ ∀ character ∈ name, character = '_' := by
  induction name generalizing boundary with
  | nil => simp
  | cons character rest ih =>
      rcases List.forall_mem_cons.mp plain with ⟨first, restPlain⟩
      rw [normalizeAfter, List.forall_mem_cons]
      split_ifs with underscore raised word
      · rw [ih restPlain true]
        exact (and_iff_right underscore).symm
      · simp [underscore]
      · simp [underscore]
      · exact absurd (first.resolve_right underscore) word

/-- Nothing is left of a plain name exactly if it has nothing but underscores. -/
theorem normalize_eq_nil_iff {name : List Char}
    (plain : isPlain name = true) :
    normalize name = [] ↔ ∀ character ∈ name, character = '_' :=
  normalizeAfter_eq_nil_iff (isPlain_iff.mp plain) false

/-- A leading underscore raises the letter after it. -/
theorem normalize_underscore_cons {first : Char} {rest : List Char}
    (worded : IsWorded (first :: rest)) :
    normalize ('_' :: first :: rest) = oneUpper first :: rest := by
  rcases isWorded_cons.mp worded with ⟨word, restWorded⟩
  have tail : normalizeAfter false rest = rest := normalize_of_isWorded restWorded
  simp [normalize, normalizeAfter, ne_underscore_of_isWord word, tail]

/-! ## What conforming does -/

theorem conform_of_not_isPlain {name : List Char} (convention : Convention)
    (special : isPlain name = false) :
    conform convention name = name := by
  simp [conform, special]

/-- Conforming either leaves a name alone or shapes its normal form. -/
theorem conform_cases (convention : Convention) (name : List Char) :
    conform convention name = name ∧ (isPlain name = false ∨ normalize name = []) ∨
      ∃ first rest,
        isPlain name = true ∧ normalize name = first :: rest ∧
          IsWorded (first :: rest) ∧ conform convention name = shape convention first rest := by
  cases plain : isPlain name with
  | false => exact Or.inl ⟨conform_of_not_isPlain convention plain, Or.inl rfl⟩
  | true =>
      cases normal : normalize name with
      | nil => exact Or.inl ⟨by simp [conform, plain, normal], Or.inr rfl⟩
      | cons first rest =>
          have worded := isWorded_normalize plain
          rw [normal] at worded
          exact Or.inr ⟨first, rest, rfl, rfl, worded, by simp [conform, plain, normal]⟩

theorem conform_of_isWorded {first : Char} {rest : List Char} (convention : Convention)
    (worded : IsWorded (first :: rest)) :
    conform convention (first :: rest) = shape convention first rest := by
  simp [conform, isPlain_of_isWorded worded, normalize_of_isWorded worded]

theorem conform_underscore_cons {first : Char} {rest : List Char} (convention : Convention)
    (worded : IsWorded (first :: rest)) :
    conform convention ('_' :: first :: rest) = shape convention (oneUpper first) rest := by
  have plain : isPlain ('_' :: first :: rest) = true := by
    apply isPlain_iff.mpr
    intro character member
    rcases List.mem_cons.mp member with rfl | member
    · exact Or.inr rfl
    · exact Or.inl (worded character member)
  simp [conform, plain, normalize_underscore_cons worded]

theorem isPlain_cons {character : Char} {rest : List Char} :
    isPlain (character :: rest) = true ↔
      (isWord character = true ∨ character = '_') ∧ isPlain rest = true := by
  rw [isPlain_iff, isPlain_iff, List.forall_mem_cons]

theorem isPlain_shape {first : Char} {rest : List Char} (convention : Convention)
    (worded : IsWorded (first :: rest)) :
    isPlain (shape convention first rest) = true := by
  rcases isWorded_cons.mp worded with ⟨word, restWorded⟩
  have lowered : isWord (oneLower first) = true := isWord_oneLower word
  have raised : isWord (oneUpper first) = true := isWord_oneUpper word
  have restPlain := isPlain_of_isWorded restWorded
  cases convention with
  | lowerCamel => simp [shape, isPlain_cons, lowered, restPlain]
  | upperCamel => simp [shape, isPlain_cons, raised, restPlain]
  | underscoreLowerCamel =>
      simp only [shape]
      split_ifs
      · simp [isPlain_cons, lowered, restPlain]
      · simp [isPlain_cons, word, restPlain]
      · simp [isPlain_cons, word, restPlain]
  | interfaceUpperCamel =>
      simp only [shape]
      split_ifs
      · simp [isPlain_cons, isWord_interfaceMark, restPlain]
      · simp [isPlain_cons, isWord_interfaceMark, raised, restPlain]
      · cases rest with
        | nil => exact isPlain_of_isWorded worded
        | cons second tail =>
            rcases isWorded_cons.mp restWorded with ⟨secondWord, tailWorded⟩
            have secondRaised : isWord (oneUpper second) = true := isWord_oneUpper secondWord
            dsimp only
            split_ifs
            · simp [isPlain_cons, isWord_interfaceMark, secondRaised,
                isPlain_of_isWorded tailWorded]
            · exact isPlain_of_isWorded worded

/-- Conforming keeps plain names plain and special names special. -/
theorem isPlain_conform (convention : Convention) (name : List Char) :
    isPlain (conform convention name) = isPlain name := by
  rcases conform_cases convention name with ⟨unchanged, -⟩ | ⟨first, rest, plain, -, worded, shaped⟩
  · rw [unchanged]
  · rw [shaped, isPlain_shape convention worded, plain]

/-! ## Shaping twice -/

/-- The interface mark stands before anything that is not lower-case or cannot be raised. -/
theorem shape_interface_of_settled {second : Char} {tail : List Char}
    (settled : oneUpper second = second) :
    shape .interfaceUpperCamel 'I' (second :: tail) = 'I' :: second :: tail := by
  simp [shape, settled]

theorem conform_shape_lower {first : Char} {rest : List Char} (later : Convention)
    (worded : IsWorded (first :: rest)) :
    conform later (shape .lowerCamel first rest) = shape later (oneLower first) rest := by
  rcases isWorded_cons.mp worded with ⟨word, restWorded⟩
  exact conform_of_isWorded later (isWorded_cons.mpr ⟨isWord_oneLower word, restWorded⟩)

theorem conform_shape_upper {first : Char} {rest : List Char} (later : Convention)
    (worded : IsWorded (first :: rest)) :
    conform later (shape .upperCamel first rest) = shape later (oneUpper first) rest := by
  rcases isWorded_cons.mp worded with ⟨word, restWorded⟩
  exact conform_of_isWorded later (isWorded_cons.mpr ⟨isWord_oneUpper word, restWorded⟩)

/-- Except under the underscore convention, a shape is its own form. -/
theorem conform_shape {convention : Convention}
    (settles : convention ≠ .underscoreLowerCamel)
    {first : Char} {rest : List Char}
    (worded : IsWorded (first :: rest)) :
    conform convention (shape convention first rest) = shape convention first rest := by
  rcases isWorded_cons.mp worded with ⟨word, restWorded⟩
  have marked : IsWorded ('I' :: rest) :=
    isWorded_cons.mpr ⟨isWord_interfaceMark, restWorded⟩
  cases convention with
  | underscoreLowerCamel => contradiction
  | lowerCamel =>
      rw [conform_shape_lower _ worded]
      simp [shape]
  | upperCamel =>
      rw [conform_shape_upper _ worded]
      simp [shape]
  | interfaceUpperCamel =>
      -- Every branch gives the mark before a character that raising leaves alone.
      simp only [shape]
      split_ifs with small other
      · cases rest with
        | nil => simp at small
        | cons second tail =>
            have upper : isUpper second = true := by
              simpa using small.2
            rw [conform_of_isWorded _ marked]
            exact shape_interface_of_settled (oneUpper_of_isUpper upper)
      · have raised : IsWorded ('I' :: oneUpper first :: rest) :=
          isWorded_cons.mpr ⟨isWord_interfaceMark,
            isWorded_cons.mpr ⟨isWord_oneUpper word, restWorded⟩⟩
        rw [conform_of_isWorded _ raised]
        exact shape_interface_of_settled (oneUpper_oneUpper first)
      · have mark : first = 'I' := Decidable.not_not.mp other
        subst mark
        cases rest with
        | nil =>
            rw [conform_of_isWorded _ worded]
            simp [shape]
        | cons second tail =>
            rcases isWorded_cons.mp restWorded with ⟨secondWord, tailWorded⟩
            dsimp only
            split_ifs with lower
            · have raised : IsWorded ('I' :: oneUpper second :: tail) :=
                isWorded_cons.mpr ⟨isWord_interfaceMark,
                  isWorded_cons.mpr ⟨isWord_oneUpper secondWord, tailWorded⟩⟩
              rw [conform_of_isWorded _ raised]
              exact shape_interface_of_settled (oneUpper_oneUpper second)
            · rw [conform_of_isWorded _ worded]
              simp [shape, lower]

/-- Is the character in either case? -/
def IsCased (character : Char) : Prop :=
  isUpper character = true ∨ isLower character = true

theorem IsCased.oneLower {character : Char} (cased : IsCased character) :
    IsCased (oneLower character) := by
  by_cases same : Text.oneLower character = character
  · rw [same]
    exact cased
  · exact Or.inr (isLower_oneLower same)

theorem IsCased.oneUpper {character : Char} (cased : IsCased character) :
    IsCased (oneUpper character) := by
  by_cases same : Text.oneUpper character = character
  · rw [same]
    exact cased
  · exact Or.inl (isUpper_oneUpper same)

theorem shape_underscore_of_isCased {first : Char} (rest : List Char)
    (cased : IsCased first) :
    shape .underscoreLowerCamel first rest = '_' :: oneLower first :: rest := by
  by_cases upper : isUpper first = true
  · simp [shape, upper]
  · have lower := cased.resolve_left upper
    simp [shape, upper, lower, oneLower_of_isLower lower]

theorem shape_underscore_of_not_isCased {first : Char} (rest : List Char)
    (uncased : ¬ IsCased first) :
    shape .underscoreLowerCamel first rest = first :: rest := by
  rcases not_or.mp uncased with ⟨notUpper, notLower⟩
  simp [shape, notUpper, notLower]

/-- A cased first character is lowered behind the mark, and the next pass raises it. -/
theorem conform_shape_marked {first : Char} {rest : List Char} (later : Convention)
    (worded : IsWorded (first :: rest)) (cased : IsCased first) :
    conform later (shape .underscoreLowerCamel first rest) =
      shape later (oneUpper (oneLower first)) rest := by
  rcases isWorded_cons.mp worded with ⟨word, restWorded⟩
  rw [shape_underscore_of_isCased rest cased]
  exact conform_underscore_cons later (isWorded_cons.mpr ⟨isWord_oneLower word, restWorded⟩)

theorem conform_shape_unmarked {first : Char} {rest : List Char} (later : Convention)
    (worded : IsWorded (first :: rest)) (uncased : ¬ IsCased first) :
    conform later (shape .underscoreLowerCamel first rest) = shape later first rest := by
  rw [shape_underscore_of_not_isCased rest uncased]
  exact conform_of_isWorded later worded

/-- Under the underscore convention a shape is its own form unless its first character is one way. -/
theorem conform_shape_underscore_iff {first : Char} {rest : List Char}
    (worded : IsWorded (first :: rest)) :
    conform .underscoreLowerCamel (shape .underscoreLowerCamel first rest) =
        shape .underscoreLowerCamel first rest ↔
      isOneWay first = false := by
  by_cases cased : IsCased first
  · rw [conform_shape_marked _ worded cased, shape_underscore_of_isCased rest cased,
      shape_underscore_of_isCased rest cased.oneLower.oneUpper]
    simp only [List.cons.injEq, true_and, and_true]
    rcases cased with upper | lower
    · simp [oneLower_oneUpper_oneLower upper, isOneWay_eq_false_of_isUpper upper]
    · rw [oneLower_of_isLower lower, isOneWay_eq_false_iff_of_isLower lower]
  · have notLower := (not_or.mp cased).2
    rw [conform_shape_unmarked _ worded cased]
    simp [isOneWay, notLower]

/-! ## Conforming twice -/

/-- Is the name plain, with a normal form that starts with a one-way character? -/
def startsOneWay (name : List Char) : Bool :=
  isPlain name && (normalize name).head?.any isOneWay

theorem conform_conform_of_ne {convention : Convention}
    (settles : convention ≠ .underscoreLowerCamel) (name : List Char) :
    conform convention (conform convention name) = conform convention name := by
  rcases conform_cases convention name with ⟨unchanged, -⟩ | ⟨first, rest, -, -, worded, shaped⟩
  · rw [unchanged, unchanged]
  · rw [shaped]
    exact conform_shape settles worded

theorem conform_conform_underscore_iff (name : List Char) :
    conform .underscoreLowerCamel (conform .underscoreLowerCamel name) =
        conform .underscoreLowerCamel name ↔
      startsOneWay name = false := by
  rcases conform_cases .underscoreLowerCamel name with
    ⟨unchanged, special | empty⟩ | ⟨first, rest, plain, normal, worded, shaped⟩
  · rw [unchanged, unchanged]
    simp [startsOneWay, special]
  · rw [unchanged, unchanged]
    simp [startsOneWay, empty]
  · rw [shaped, conform_shape_underscore_iff worded]
    simp [startsOneWay, plain, normal]

theorem conformText_conformText_iff (convention : Convention) (name : String) :
    conformText convention (conformText convention name) = conformText convention name ↔
      conform convention (conform convention name.toList) = conform convention name.toList := by
  simp [conformText, String.ofList_inj]

end CasingLint.Name

namespace CasingLint.Token

open CasingLint.Text

@[simp]
theorem withValue_text (token : Token) (value : String) :
    (token.withValue value).text = value := rfl

@[simp]
theorem withValue_withValue (token : Token) (first second : String) :
    (token.withValue first).withValue second = token.withValue second := rfl

theorem withValue_inj {token : Token} {first second : String} :
    token.withValue first = token.withValue second ↔ first = second := by
  constructor
  · intro equal
    exact congrArg Token.text equal
  · rintro rfl
    rfl

theorem not_isPlain_of_isBypassed {token : Token}
    (bypassed : token.isBypassed = true) :
    Name.isPlain token.text.toList = false := by
  rw [Bool.eq_false_iff]
  intro plain
  have allowed := Name.isPlain_iff.mp plain
  simp only [isBypassed, isVerbatim, isEscaped, Bool.or_eq_true, beq_iff_eq,
    List.contains_iff_mem] at bypassed
  rcases bypassed with verbatim | escaped
  · rcases allowed '@' (List.mem_of_head? verbatim) with word | underscore
    · rw [Name.not_isWord_verbatimMark] at word
      contradiction
    · contradiction
  · rcases allowed '\\' escaped with word | underscore
    · rw [Name.not_isWord_backslash] at word
      contradiction
    · contradiction

theorem conform_of_isBypassed {token : Token} (convention : Convention)
    (bypassed : token.isBypassed = true) :
    token.conform convention = token := by
  simp [conform, bypassed]

theorem conform_of_not_isBypassed {token : Token} (convention : Convention)
    (rewritable : token.isBypassed = false) :
    token.conform convention = token.withValue (Name.conformText convention token.value) := by
  simp [conform, rewritable]

/-- The spelling that a convention asks for depends on spelling and value only. -/
theorem conform_text_congr {left right : Token} (convention : Convention)
    (sameText : left.text = right.text) (sameValue : left.value = right.value) :
    (left.conform convention).text = (right.conform convention).text := by
  have sameBypass : left.isBypassed = right.isBypassed := by
    simp only [isBypassed, isVerbatim, isEscaped, sameText]
  cases bypassed : right.isBypassed with
  | true =>
      rw [conform_of_isBypassed convention (sameBypass.trans bypassed),
        conform_of_isBypassed convention bypassed]
      exact sameText
  | false =>
      rw [conform_of_not_isBypassed convention (sameBypass.trans bypassed),
        conform_of_not_isBypassed convention bypassed, sameValue]
      rfl

/-- A token conforms twice as its value does, unless its spelling is off limits. -/
theorem conform_conform_iff (convention : Convention) (token : Token) :
    (token.conform convention).conform convention = token.conform convention ↔
      token.isBypassed = true ∨
        Name.conformText convention (Name.conformText convention token.value) =
          Name.conformText convention token.value := by
  cases bypassed : token.isBypassed with
  | true => simp [conform_of_isBypassed convention bypassed]
  | false =>
      rw [conform_of_not_isBypassed convention bypassed]
      cases again : (token.withValue (Name.conformText convention token.value)).isBypassed with
      | true =>
          -- A value that looks off limits is special, so conforming leaves it alone too.
          have special := not_isPlain_of_isBypassed again
          rw [withValue_text] at special
          have settled := Name.conform_of_not_isPlain convention special
          have unchanged :
              Name.conformText convention (Name.conformText convention token.value) =
                Name.conformText convention token.value := by
            rw [Name.conformText, settled, String.ofList_toList]
          simp [conform_of_isBypassed convention again, unchanged]
      | false =>
          rw [conform_of_not_isBypassed convention again, withValue_withValue, withValue_inj]
          simp [withValue]

end CasingLint.Token

namespace CasingLint

/--
The underscore convention settles a name at once exactly when the name does not start
one way, and it settles a token exactly when it settles the token's value or must not
touch the token's spelling.
-/
theorem conform_underscore_twice_iff (name : String) (token : Token) :
    (Name.conformText .underscoreLowerCamel (Name.conformText .underscoreLowerCamel name) =
        Name.conformText .underscoreLowerCamel name ↔
      Name.startsOneWay name.toList = false) ∧
    ((token.conform .underscoreLowerCamel).conform .underscoreLowerCamel =
        token.conform .underscoreLowerCamel ↔
      token.isBypassed = true ∨ Name.startsOneWay token.value.toList = false) := by
  have texts (text : String) :=
    (Name.conformText_conformText_iff .underscoreLowerCamel text).trans
      (Name.conform_conform_underscore_iff text.toList)
  constructor
  · exact texts name
  · rw [Token.conform_conform_iff, texts token.value]

/-- A dotless `ı` gets its underscore in the first pass and a dot in the second. -/
theorem conform_underscore_dotless :
    Name.conformText .underscoreLowerCamel "ı" = "_ı" ∧
      Name.conformText .underscoreLowerCamel "_ı" = "_i" ∧
      Name.conformText .underscoreLowerCamel (Name.conformText .underscoreLowerCamel "ı") ≠
        Name.conformText .underscoreLowerCamel "ı" := by
  decide +kernel

/-- The other three conventions settle every name and every token at once. -/
theorem conform_twice {convention : Convention}
    (settles : convention ≠ .underscoreLowerCamel) :
    (∀ name : String,
      Name.conformText convention (Name.conformText convention name) =
        Name.conformText convention name) ∧
    ∀ token : Token,
      (token.conform convention).conform convention = token.conform convention := by
  have names (name : String) :=
    (Name.conformText_conformText_iff convention name).mpr
      (Name.conform_conform_of_ne settles name.toList)
  refine ⟨names, ?_⟩
  intro token
  rw [Token.conform_conform_iff]
  exact Or.inr (names token.value)

/-- An interface name that the first pass moves to another branch of the convention. -/
theorem conform_twice_interface :
    (Convention.interfaceUpperCamel ≠ .underscoreLowerCamel) ∧
      Name.conformText .interfaceUpperCamel "ı_service" = "IIService" ∧
      Name.conformText .interfaceUpperCamel
          (Name.conformText .interfaceUpperCamel "ı_service") =
        Name.conformText .interfaceUpperCamel "ı_service" :=
  ⟨by decide, by decide +kernel, (conform_twice (by decide)).1 "ı_service"⟩

end CasingLint
