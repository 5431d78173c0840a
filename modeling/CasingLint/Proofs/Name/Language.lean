import CasingLint.Proofs.Name.Idempotence

/-!
# The words of a convention

A name is accepted under a convention if the form that the convention asks for is the name
itself.  This module describes the accepted names by their characters alone.  Names with a
special character, and names with nothing but underscores, are accepted as they are.  Every
other accepted name is a word of the convention: a row of letters and numerals without an
underscore, whose first one or two characters are in the case that the convention wants.
Under the underscore convention a word has the mark in front, unless its first character has
no case.

The argument goes through the shape of a word.  Whatever a convention makes of a name is in
one piece, with at most the mark in front of it, and so is every word.  On names in one piece
normalizing does nothing but raise the character after a mark, so there it remains to compare
what the convention does to the first characters with what it asks of them.
-/

namespace CasingLint.Name

open CasingLint.Text

/-- A name of letters, numerals and underscores that is more than underscores. -/
structure IsRewritable (name : List Char) : Prop where
  plain : ∀ character ∈ name, isWord character = true ∨ character = '_'
  named : ∃ character ∈ name, character ≠ '_'

/-- The words of each convention, given by their characters. -/
inductive IsWordOf : Convention → List Char → Prop where
  | lowerCamel {first : Char} {rest : List Char}
      (joined : '_' ∉ first :: rest)
      (lowered : oneLower first = first) :
      IsWordOf .lowerCamel (first :: rest)
  | upperCamel {first : Char} {rest : List Char}
      (joined : '_' ∉ first :: rest)
      (raised : oneUpper first = first) :
      IsWordOf .upperCamel (first :: rest)
  | interfaceMark :
      IsWordOf .interfaceUpperCamel ['I']
  | interface {second : Char} {tail : List Char}
      (joined : '_' ∉ 'I' :: second :: tail)
      (settled : isLower second = false ∨ oneUpper second = second) :
      IsWordOf .interfaceUpperCamel ('I' :: second :: tail)
  | marked {first : Char} {rest : List Char}
      (joined : '_' ∉ first :: rest)
      (returning :
        isUpper (oneUpper first) = true ∧ oneLower (oneUpper first) = first ∨
          isLower first = true ∧ oneUpper first = first) :
      IsWordOf .underscoreLowerCamel ('_' :: first :: rest)
  | caseless {first : Char} {rest : List Char}
      (joined : '_' ∉ first :: rest)
      (notUpper : isUpper first = false)
      (notLower : isLower first = false) :
      IsWordOf .underscoreLowerCamel (first :: rest)

/-! ## Names in one piece -/

theorem underscore_notMem_of_isWorded {name : List Char}
    (worded : IsWorded name) :
    '_' ∉ name := by
  intro member
  exact ne_underscore_of_isWord (worded '_' member) rfl

theorem isWorded_of_notMem {name : List Char}
    (plain : ∀ character ∈ name, isWord character = true ∨ character = '_')
    (joined : '_' ∉ name) :
    IsWorded name := by
  intro character member
  apply (plain character member).resolve_right
  rintro rfl
  exact joined member

/-- Letters and numerals only, or such a name behind the mark of the underscore convention. -/
inductive IsOnePiece : Convention → List Char → Prop where
  | worded {convention : Convention} {first : Char} {rest : List Char}
      (worded : IsWorded (first :: rest)) :
      IsOnePiece convention (first :: rest)
  | marked {first : Char} {rest : List Char}
      (worded : IsWorded (first :: rest)) :
      IsOnePiece .underscoreLowerCamel ('_' :: first :: rest)

/-- What a convention makes of a normal form is in one piece. -/
theorem isOnePiece_shape {first : Char} {rest : List Char} (convention : Convention)
    (worded : IsWorded (first :: rest)) :
    IsOnePiece convention (shape convention first rest) := by
  rcases isWorded_cons.mp worded with ⟨word, restWorded⟩
  have lowered : IsWorded (oneLower first :: rest) :=
    isWorded_cons.mpr ⟨isWord_oneLower word, restWorded⟩
  have raised : IsWorded (oneUpper first :: rest) :=
    isWorded_cons.mpr ⟨isWord_oneUpper word, restWorded⟩
  cases convention with
  | lowerCamel => exact .worded lowered
  | upperCamel => exact .worded raised
  | underscoreLowerCamel =>
      by_cases cased : IsCased first
      · rw [shape_underscore_of_isCased rest cased]
        exact .marked lowered
      · rw [shape_underscore_of_not_isCased rest cased]
        exact .worded worded
  | interfaceUpperCamel =>
      simp only [shape]
      split_ifs with small other
      · exact .worded (isWorded_cons.mpr ⟨isWord_interfaceMark, restWorded⟩)
      · exact .worded (isWorded_cons.mpr ⟨isWord_interfaceMark, raised⟩)
      · cases rest with
        | nil => exact .worded worded
        | cons second tail =>
            rcases isWorded_cons.mp restWorded with ⟨secondWord, tailWorded⟩
            dsimp only
            split_ifs with lower
            · apply IsOnePiece.worded
              exact isWorded_cons.mpr ⟨isWord_interfaceMark,
                isWorded_cons.mpr ⟨isWord_oneUpper secondWord, tailWorded⟩⟩
            · exact .worded worded

theorem isOnePiece_of_isWordOf {convention : Convention} {name : List Char}
    (plain : ∀ character ∈ name, isWord character = true ∨ character = '_')
    (word : IsWordOf convention name) :
    IsOnePiece convention name := by
  cases word with
  | lowerCamel joined => exact .worded (isWorded_of_notMem plain joined)
  | upperCamel joined => exact .worded (isWorded_of_notMem plain joined)
  | interfaceMark => exact .worded (isWorded_of_notMem plain (by decide))
  | interface joined => exact .worded (isWorded_of_notMem plain joined)
  | marked joined =>
      exact .marked (isWorded_of_notMem (List.forall_mem_cons.mp plain).2 joined)
  | caseless joined => exact .worded (isWorded_of_notMem plain joined)

/-! ## Names that keep their shape -/

theorem shape_interface_eq_self_iff {first : Char} {rest : List Char}
    (worded : IsWorded (first :: rest)) :
    shape .interfaceUpperCamel first rest = first :: rest ↔
      IsWordOf .interfaceUpperCamel (first :: rest) := by
  have joined := underscore_notMem_of_isWorded worded
  by_cases mark : first = 'I'
  · subst mark
    cases rest with
    | nil =>
        simp only [shape]
        exact iff_of_true rfl .interfaceMark
    | cons second tail =>
        constructor
        · intro kept
          refine .interface joined ?_
          cases lower : isLower second with
          | false => exact Or.inl rfl
          | true =>
              simp only [shape, lower] at kept
              simpa using kept
        · intro word
          cases word with
          | interface _ settled =>
              rcases settled with notLower | raised
              · simp [shape, notLower]
              · exact shape_interface_of_settled raised
  · apply iff_of_false
    · intro kept
      have heads := congrArg List.head? kept
      simp only [shape, if_pos mark] at heads
      split_ifs at heads <;> exact mark (Option.some.inj heads).symm
    · intro word
      cases word <;> exact mark rfl

/-- A name in one piece keeps its shape exactly if it is a word. -/
theorem shape_eq_self_iff {first : Char} {rest : List Char} (convention : Convention)
    (worded : IsWorded (first :: rest)) :
    shape convention first rest = first :: rest ↔ IsWordOf convention (first :: rest) := by
  have joined := underscore_notMem_of_isWorded worded
  cases convention with
  | lowerCamel =>
      simp only [shape, List.cons.injEq, and_true]
      constructor
      · exact .lowerCamel joined
      · intro word
        cases word with
        | lowerCamel _ lowered => exact lowered
  | upperCamel =>
      simp only [shape, List.cons.injEq, and_true]
      constructor
      · exact .upperCamel joined
      · intro word
        cases word with
        | upperCamel _ raised => exact raised
  | interfaceUpperCamel => exact shape_interface_eq_self_iff worded
  | underscoreLowerCamel =>
      by_cases cased : IsCased first
      · rw [shape_underscore_of_isCased rest cased]
        apply iff_of_false
        · intro kept
          rw [List.cons.injEq] at kept
          exact joined (kept.1 ▸ List.mem_cons_self)
        · intro word
          cases word with
          | marked _ _ => exact joined List.mem_cons_self
          | caseless _ notUpper notLower =>
              rcases cased with upper | lower
              · exact Bool.eq_false_iff.mp notUpper upper
              · exact Bool.eq_false_iff.mp notLower lower
      · rw [shape_underscore_of_not_isCased rest cased]
        rcases not_or.mp cased with ⟨notUpper, notLower⟩
        exact iff_of_true rfl
          (.caseless joined (Bool.eq_false_iff.mpr notUpper) (Bool.eq_false_iff.mpr notLower))

/-- A marked name is accepted exactly if its first letter comes back from upper case. -/
theorem conform_marked_eq_self_iff {first : Char} {rest : List Char}
    (worded : IsWorded (first :: rest)) :
    conform .underscoreLowerCamel ('_' :: first :: rest) = '_' :: first :: rest ↔
      IsWordOf .underscoreLowerCamel ('_' :: first :: rest) := by
  have joined := underscore_notMem_of_isWorded worded
  rw [conform_underscore_cons _ worded]
  constructor
  · intro kept
    refine .marked joined ?_
    simp only [shape] at kept
    split_ifs at kept with upper lower
    · simp only [List.cons.injEq, true_and, and_true] at kept
      exact Or.inl ⟨upper, kept⟩
    · simp only [List.cons.injEq, true_and, and_true] at kept
      rw [kept] at lower
      exact Or.inr ⟨lower, kept⟩
    · -- Without a case the mark would be lost.
      have sizes := congrArg List.length kept
      simp at sizes
  · intro word
    cases word with
    | marked _ returning =>
        rcases returning with ⟨upper, lowered⟩ | ⟨lower, raised⟩
        · simp [shape, upper, lowered]
        · rw [raised, shape_underscore_of_isCased rest (Or.inr lower), oneLower_of_isLower lower]
    | caseless marked => exact absurd List.mem_cons_self marked

theorem conform_eq_self_iff_of_isOnePiece {convention : Convention} {name : List Char}
    (piece : IsOnePiece convention name) :
    conform convention name = name ↔ IsWordOf convention name := by
  cases piece with
  | worded worded =>
      rw [conform_of_isWorded convention worded]
      exact shape_eq_self_iff convention worded
  | marked worded => exact conform_marked_eq_self_iff worded

/-! ## Accepted names -/

/-- Of the plain names, those that nothing is left of are the ones that cannot be rewritten. -/
theorem normalize_eq_nil_iff_not_isRewritable {name : List Char}
    (plain : isPlain name = true) :
    normalize name = [] ↔ ¬ IsRewritable name := by
  rw [normalize_eq_nil_iff plain]
  constructor
  · rintro blank ⟨-, character, member, other⟩
    exact other (blank character member)
  · intro fixed character member
    apply Decidable.byContradiction
    intro other
    exact fixed ⟨isPlain_iff.mp plain, character, member, other⟩

theorem exists_conform_eq_shape {name : List Char} (convention : Convention)
    (rewritable : IsRewritable name) :
    ∃ first rest, normalize name = first :: rest ∧ IsWorded (first :: rest) ∧
      conform convention name = shape convention first rest := by
  have plain := isPlain_iff.mpr rewritable.plain
  rcases conform_cases convention name with
    ⟨-, special | empty⟩ | ⟨first, rest, -, normal, worded, shaped⟩
  · rw [plain] at special
    contradiction
  · exact absurd rewritable ((normalize_eq_nil_iff_not_isRewritable plain).mp empty)
  · exact ⟨first, rest, normal, worded, shaped⟩

theorem isOnePiece_conform {name : List Char} (convention : Convention)
    (rewritable : IsRewritable name) :
    IsOnePiece convention (conform convention name) := by
  rcases exists_conform_eq_shape convention rewritable with ⟨first, rest, -, worded, shaped⟩
  rw [shaped]
  exact isOnePiece_shape convention worded

theorem conform_of_not_isRewritable {name : List Char} (convention : Convention)
    (fixed : ¬ IsRewritable name) :
    conform convention name = name := by
  rcases conform_cases convention name with ⟨unchanged, -⟩ | ⟨first, rest, plain, normal, -, -⟩
  · exact unchanged
  · rw [(normalize_eq_nil_iff_not_isRewritable plain).mpr fixed] at normal
    contradiction

theorem conform_eq_self_iff_isWordOf {convention : Convention} {name : List Char}
    (rewritable : IsRewritable name) :
    conform convention name = name ↔ IsWordOf convention name := by
  constructor
  · intro accepted
    have piece := isOnePiece_conform convention rewritable
    rw [accepted] at piece
    exact (conform_eq_self_iff_of_isOnePiece piece).mp accepted
  · intro word
    have piece := isOnePiece_of_isWordOf rewritable.plain word
    exact (conform_eq_self_iff_of_isOnePiece piece).mpr word

end CasingLint.Name

namespace CasingLint

/--
A name of letters, numerals and underscores, with something besides underscores, is accepted
under a convention exactly if it is a word of that convention.  Every other name is accepted.
-/
theorem conformText_eq_self_iff (convention : Convention) (name : String) :
    (Name.IsRewritable name.toList →
      (Name.conformText convention name = name ↔ Name.IsWordOf convention name.toList)) ∧
    (¬ Name.IsRewritable name.toList → Name.conformText convention name = name) := by
  have texts :
      Name.conformText convention name = name ↔
        Name.conform convention name.toList = name.toList := by
    rw [Name.conformText, ← String.toList_inj, String.toList_ofList]
  rw [texts]
  exact ⟨Name.conform_eq_self_iff_isWordOf, Name.conform_of_not_isRewritable convention⟩

/-- A letter without a single upper case keeps its mark; a dotless `ı` would get a dot. -/
example :
    Name.conformText .underscoreLowerCamel "_ßeta" = "_ßeta" ∧
      Name.conformText .underscoreLowerCamel "_ıota" = "_iota" := by
  decide +kernel

end CasingLint
