import CasingLint.Proofs.Name.Language
import CasingLint.Proofs.Outcome

/-!
# The letters of a renamed name

A convention changes the case of letters and drops underscores.  This module shows that it
does nothing else.  Apart from the underscores, a name and the form that a convention asks of
it are the same row of letters and numerals: none is lost, none is added but the mark of an
interface, and none changes its place.  A letter may change its case only if it is among the
first ones or stands right behind an underscore.

Normalizing is a machine that remembers nothing but whether an underscore stood right before.
So the normal form of a name that is cut in two is put together from two runs of the machine,
and a cut right before a letter shows what becomes of this letter.  Shaping changes the first
letters of a normal form and leaves the others alone.

Since a change of case leads from letters to letters, a name that starts with a letter, behind
underscores or not, becomes a name that starts with a letter again.
-/

namespace CasingLint.Text

/-- A character that comes from another one by changes of case, be they none or several. -/
inductive IsRecased (original : Char) : Char → Prop where
  | same : IsRecased original original
  | raised {character : Char} (recased : IsRecased original character) :
      IsRecased original (oneUpper character)
  | lowered {character : Char} (recased : IsRecased original character) :
      IsRecased original (oneLower character)

theorem IsRecased.trans {first second third : Char}
    (earlier : IsRecased first second) (later : IsRecased second third) :
    IsRecased first third := by
  induction later with
  | same => exact earlier
  | raised _ ih => exact .raised ih
  | lowered _ ih => exact .lowered ih

theorem IsRecased.isLetter {original character : Char}
    (recased : IsRecased original character) (letter : isLetter original = true) :
    isLetter character = true := by
  induction recased with
  | same => exact letter
  | raised _ ih => exact isLetter_oneUpper ih
  | lowered _ ih => exact isLetter_oneLower ih

end CasingLint.Text

namespace CasingLint.Name

open CasingLint.Text

/-! ## Names without their underscores -/

/-- All characters of a name but the underscores. -/
def letters (name : List Char) : List Char :=
  name.filter (· ≠ '_')

@[simp]
theorem letters_nil : letters [] = [] := rfl

@[simp]
theorem letters_cons_underscore (rest : List Char) :
    letters ('_' :: rest) = letters rest := rfl

theorem letters_cons_of_ne {character : Char} (rest : List Char)
    (letter : character ≠ '_') :
    letters (character :: rest) = character :: letters rest := by
  simp [letters, letter]

theorem letters_of_isWorded {name : List Char} (worded : IsWorded name) :
    letters name = name := by
  apply List.filter_eq_self.mpr
  intro character member
  exact decide_eq_true (ne_underscore_of_isWord (worded character member))

/-! ## What becomes of a letter in the normal form -/

/-- Is there a boundary right behind the given part of a name?  For no part, `boundary` says so. -/
def boundaryAfter (boundary : Bool) (before : List Char) : Bool :=
  (before.getLast?.map (· == '_')).getD boundary

@[simp]
theorem boundaryAfter_nil (boundary : Bool) :
    boundaryAfter boundary [] = boundary := rfl

@[simp]
theorem boundaryAfter_cons (boundary : Bool) (character : Char) (rest : List Char) :
    boundaryAfter boundary (character :: rest) = boundaryAfter (character == '_') rest := by
  rw [boundaryAfter, boundaryAfter, List.getLast?_cons]
  cases rest.getLast? with
  | none => rfl
  | some last => rfl

@[simp]
theorem normalizeAfter_cons_underscore (boundary : Bool) (rest : List Char) :
    normalizeAfter boundary ('_' :: rest) = normalizeAfter true rest := by
  simp [normalizeAfter]

/-- A letter is raised behind a boundary, and there is none behind the letter. -/
theorem normalizeAfter_cons_of_isWord {character : Char} (boundary : Bool) (rest : List Char)
    (word : isWord character = true) :
    normalizeAfter boundary (character :: rest) =
      (if boundary then oneUpper character else character) :: normalizeAfter false rest := by
  rw [normalizeAfter, if_neg (ne_underscore_of_isWord word)]
  cases boundary with
  | false => simp [word]
  | true => simp

/-- The machine can be stopped anywhere and goes on with the boundary that it remembers. -/
theorem normalizeAfter_append (boundary : Bool) (before rest : List Char) :
    normalizeAfter boundary (before ++ rest) =
      normalizeAfter boundary before ++ normalizeAfter (boundaryAfter boundary before) rest := by
  induction before generalizing boundary with
  | nil => rfl
  | cons character others ih =>
      rw [List.cons_append, boundaryAfter_cons]
      simp only [normalizeAfter]
      split_ifs with underscore raised word
      · rw [ih, beq_iff_eq.mpr underscore]
      · rw [ih, beq_eq_false_iff_ne.mpr underscore, List.cons_append]
      · rw [ih, beq_eq_false_iff_ne.mpr underscore, List.cons_append]
      · rw [ih, beq_eq_false_iff_ne.mpr underscore]

/-- The normal form of a plain name has a place for each letter of the name, and no other. -/
theorem length_normalizeAfter {name : List Char} (boundary : Bool)
    (plain : isPlain name = true) :
    (normalizeAfter boundary name).length = (letters name).length := by
  induction name generalizing boundary with
  | nil => rfl
  | cons character rest ih =>
      rcases isPlain_cons.mp plain with ⟨word | rfl, restPlain⟩
      · rw [normalizeAfter_cons_of_isWord boundary rest word,
          letters_cons_of_ne rest (ne_underscore_of_isWord word), List.length_cons,
          List.length_cons, ih false restPlain]
      · rw [normalizeAfter_cons_underscore, letters_cons_underscore, ih true restPlain]

theorem isPlain_append {before after : List Char} :
    isPlain (before ++ after) = true ↔ isPlain before = true ∧ isPlain after = true := by
  simp only [isPlain_iff, List.forall_mem_append]

/-- A letter keeps its place among the letters; it is raised behind an underscore. -/
theorem getElem?_normalize {before after : List Char} {character : Char}
    (plain : isPlain (before ++ character :: after) = true) (letter : character ≠ '_') :
    (normalize (before ++ character :: after))[(letters before).length]? =
      some (if before.getLast? = some '_' then oneUpper character else character) := by
  rcases isPlain_append.mp plain with ⟨beforePlain, restPlain⟩
  have word : isWord character = true := (isPlain_cons.mp restPlain).1.resolve_right letter
  have boundary : boundaryAfter false before = decide (before.getLast? = some '_') := by
    rw [boundaryAfter]
    cases before.getLast? with
    | none => rfl
    | some last => simp [Bool.beq_eq_decide_eq]
  rw [normalize, normalizeAfter_append, normalizeAfter_cons_of_isWord _ _ word,
    ← length_normalizeAfter false beforePlain, boundary]
  simp

/-! ## What becomes of a letter in the shape -/

/-- The number of letters at the front that a convention may change in any case. -/
def reach : Convention → Nat
  | .interfaceUpperCamel => 2
  | _ => 1

/-- What a convention may put in front of the letters of a name: the mark of an interface. -/
def IsLead (convention : Convention) (lead : List Char) : Prop :=
  lead = [] ∨ convention = .interfaceUpperCamel ∧ lead = ['I']

/-- The letters of the result are the given ones, but for a mark and the case of the first. -/
def IsReshaped (convention : Convention) (source result : List Char) : Prop :=
  ∃ lead images, letters result = lead ++ images ∧ IsLead convention lead ∧
    List.Forall₂ IsRecased source images ∧
      images.drop (reach convention) = source.drop (reach convention)

theorem forall₂_isRecased_self (name : List Char) :
    List.Forall₂ IsRecased name name :=
  List.forall₂_same.mpr fun _ _ => .same

theorem isReshaped_self {source : List Char} (convention : Convention)
    (worded : IsWorded source) :
    IsReshaped convention source source :=
  ⟨[], source, letters_of_isWorded worded, Or.inl rfl, forall₂_isRecased_self source, rfl⟩

/-- Every convention may change the case of the first letter. -/
theorem isReshaped_cons {first image : Char} {rest : List Char} (convention : Convention)
    (worded : IsWorded (image :: rest)) (recased : IsRecased first image) :
    IsReshaped convention (first :: rest) (image :: rest) := by
  refine ⟨[], image :: rest, letters_of_isWorded worded, Or.inl rfl, ?_, ?_⟩
  · exact .cons recased (forall₂_isRecased_self rest)
  · cases convention <;> rfl

theorem IsReshaped.marked {convention : Convention} {source result : List Char}
    (reshaped : IsReshaped convention source result) :
    IsReshaped convention source ('_' :: result) :=
  reshaped

theorem oneUpper_interfaceMark : oneUpper 'i' = 'I' := by
  decide +kernel

theorem isReshaped_shape_interface {first : Char} {rest : List Char}
    (worded : IsWorded (first :: rest)) :
    IsReshaped .interfaceUpperCamel (first :: rest) (shape .interfaceUpperCamel first rest) := by
  rcases isWorded_cons.mp worded with ⟨word, restWorded⟩
  simp only [shape]
  split_ifs with small other
  · -- The small `i` becomes the mark itself.
    apply isReshaped_cons _ (isWorded_cons.mpr ⟨isWord_interfaceMark, restWorded⟩)
    rw [← oneUpper_interfaceMark, small.1]
    exact .raised .same
  · have raised : IsWorded (oneUpper first :: rest) :=
      isWorded_cons.mpr ⟨isWord_oneUpper word, restWorded⟩
    refine ⟨['I'], oneUpper first :: rest, ?_, Or.inr ⟨rfl, rfl⟩, ?_, rfl⟩
    · exact letters_of_isWorded (isWorded_cons.mpr ⟨isWord_interfaceMark, raised⟩)
    · exact .cons (.raised .same) (forall₂_isRecased_self rest)
  · have mark : first = 'I' := Decidable.not_not.mp other
    subst mark
    cases rest with
    | nil => exact isReshaped_self _ worded
    | cons second tail =>
        rcases isWorded_cons.mp restWorded with ⟨secondWord, tailWorded⟩
        dsimp only
        split_ifs with lower
        · have raised : IsWorded ('I' :: oneUpper second :: tail) :=
            isWorded_cons.mpr ⟨isWord_interfaceMark,
              isWorded_cons.mpr ⟨isWord_oneUpper secondWord, tailWorded⟩⟩
          refine ⟨[], _, letters_of_isWorded raised, Or.inl rfl, ?_, rfl⟩
          exact .cons .same (.cons (.raised .same) (forall₂_isRecased_self tail))
        · exact isReshaped_self _ worded

/-- Shaping a normal form changes the case of its first letters and leaves the others alone. -/
theorem isReshaped_shape {first : Char} {rest : List Char} (convention : Convention)
    (worded : IsWorded (first :: rest)) :
    IsReshaped convention (first :: rest) (shape convention first rest) := by
  rcases isWorded_cons.mp worded with ⟨word, restWorded⟩
  have lowered : IsWorded (oneLower first :: rest) :=
    isWorded_cons.mpr ⟨isWord_oneLower word, restWorded⟩
  have raised : IsWorded (oneUpper first :: rest) :=
    isWorded_cons.mpr ⟨isWord_oneUpper word, restWorded⟩
  cases convention with
  | lowerCamel => exact isReshaped_cons _ lowered (.lowered .same)
  | upperCamel => exact isReshaped_cons _ raised (.raised .same)
  | underscoreLowerCamel =>
      by_cases cased : IsCased first
      · rw [shape_underscore_of_isCased rest cased]
        exact (isReshaped_cons _ lowered (.lowered .same)).marked
      · rw [shape_underscore_of_not_isCased rest cased]
        exact isReshaped_self _ worded
  | interfaceUpperCamel => exact isReshaped_shape_interface worded

/-! ## What becomes of a letter in all -/

/--
The images of the letters of a name, one for each and in the same order.  An image is made
by changes of case, and it is the letter itself unless the letter is among the first ones,
as many as `reach` says, or has an underscore right before it.
-/
structure AreImages (reach : Nat) (name images : List Char) : Prop where
  length : images.length = (letters name).length
  each : ∀ before character after, name = before ++ character :: after → character ≠ '_' →
    ∃ image, images[(letters before).length]? = some image ∧ IsRecased character image ∧
      (reach ≤ (letters before).length → before.getLast? ≠ some '_' → image = character)

/--
The result of a renaming that neither loses nor adds nor moves a letter, and of whose
underscores there is one at most, in front, as the mark of the underscore convention.
-/
structure KeepsLetters (convention : Convention) (name result : List Char) : Prop where
  aligned : ∃ lead images, letters result = lead ++ images ∧ IsLead convention lead ∧
    AreImages (reach convention) name images
  joined : '_' ∉ result.tail
  marked : '_' ∈ result → convention = .underscoreLowerCamel

theorem areImages_of_normalize {convention : Convention} {name images : List Char}
    (plain : isPlain name = true)
    (recased : List.Forall₂ IsRecased (normalize name) images)
    (settled : images.drop (reach convention) = (normalize name).drop (reach convention)) :
    AreImages (reach convention) name images := by
  constructor
  case length =>
    rw [← recased.length_eq]
    exact length_normalizeAfter false plain
  case each =>
    rintro before character after rfl letter
    have place := getElem?_normalize plain letter
    rcases Outcome.exists_getElem?_of_forall₂ recased place with ⟨image, imagePlace, made⟩
    refine ⟨image, imagePlace, ?_, ?_⟩
    · apply IsRecased.trans _ made
      split_ifs
      · exact .raised .same
      · exact .same
    · intro beyond unbounded
      rw [if_neg unbounded] at place
      have same : images[(letters before).length]? =
          (normalize (before ++ character :: after))[(letters before).length]? := by
        have later := congrArg (·[(letters before).length - reach convention]?) settled
        simpa only [List.getElem?_drop, Nat.add_sub_cancel' beyond] using later
      rw [imagePlace, place] at same
      exact Option.some.inj same

theorem IsOnePiece.joined {convention : Convention} {name : List Char}
    (piece : IsOnePiece convention name) :
    '_' ∉ name.tail ∧ ('_' ∈ name → convention = .underscoreLowerCamel) := by
  cases piece with
  | worded worded =>
      have free := underscore_notMem_of_isWorded worded
      exact ⟨fun member => free (List.mem_cons_of_mem _ member), fun member => absurd member free⟩
  | marked worded => exact ⟨underscore_notMem_of_isWorded worded, fun _ => rfl⟩

theorem keepsLetters_conform {name : List Char} (convention : Convention)
    (rewritable : IsRewritable name) :
    KeepsLetters convention name (conform convention name) := by
  have plain := isPlain_iff.mpr rewritable.plain
  rcases exists_conform_eq_shape convention rewritable with
    ⟨first, rest, normal, worded, shaped⟩
  rcases isReshaped_shape convention worded with
    ⟨lead, images, split, isLead, recased, settled⟩
  rcases (isOnePiece_conform convention rewritable).joined with ⟨joined, marked⟩
  rw [← shaped] at split
  rw [← normal] at recased settled
  exact ⟨⟨lead, images, split, isLead, areImages_of_normalize plain recased settled⟩,
    joined, marked⟩

/-! ## Names stay identifiers -/

/-- A letter with letters and numerals after it, and perhaps one underscore in front. -/
inductive IsIdentifier : List Char → Prop where
  | worded {first : Char} {rest : List Char}
      (letter : isLetter first = true) (worded : IsWorded rest) :
      IsIdentifier (first :: rest)
  | marked {first : Char} {rest : List Char}
      (letter : isLetter first = true) (worded : IsWorded rest) :
      IsIdentifier ('_' :: first :: rest)

theorem isIdentifier_of_isOnePiece {convention : Convention} {name : List Char}
    (piece : IsOnePiece convention name)
    (starts : ∃ first ∈ (letters name).head?, isLetter first = true) :
    IsIdentifier name := by
  rcases starts with ⟨first, head, letter⟩
  cases piece with
  | worded worded =>
      rw [letters_of_isWorded worded] at head
      cases head
      exact .worded letter (isWorded_cons.mp worded).2
  | marked worded =>
      rw [letters_cons_underscore, letters_of_isWorded worded] at head
      cases head
      exact .marked letter (isWorded_cons.mp worded).2

theorem isLetter_interfaceMark : isLetter 'I' = true := by
  decide +kernel

/-- The first letter of a name has an image with only the mark of an interface before it. -/
theorem KeepsLetters.exists_first {convention : Convention} {name result : List Char} {first : Char}
    (keeps : KeepsLetters convention name result)
    (found : name.find? (· ≠ '_') = some first) (letter : isLetter first = true) :
    ∃ character ∈ (letters result).head?, isLetter character = true := by
  rcases List.find?_eq_some_iff_append.mp found with ⟨isFirst, before, after, rfl, underscores⟩
  have none : letters before = [] :=
    List.filter_eq_nil_iff.mpr fun character member => by simpa using underscores character member
  rcases keeps.aligned with ⟨lead, images, split, isLead, areImages⟩
  rcases areImages.each before first after rfl (of_decide_eq_true isFirst) with
    ⟨image, place, recased, -⟩
  rw [none, List.length_nil, ← List.head?_eq_getElem?] at place
  rw [split]
  rcases isLead with rfl | ⟨-, rfl⟩
  · exact ⟨image, place, recased.isLetter letter⟩
  · exact ⟨'I', rfl, isLetter_interfaceMark⟩

end CasingLint.Name

namespace CasingLint

/--
A convention leaves a name as it is if the name cannot be rewritten, and it keeps the letters
of every other name.
-/
theorem conformText_keepsLetters (convention : Convention) (name : String) :
    ¬ Name.IsRewritable name.toList ∧ Name.conformText convention name = name ∨
      Name.IsRewritable name.toList ∧
        Name.KeepsLetters convention name.toList (Name.conformText convention name).toList := by
  by_cases rewritable : Name.IsRewritable name.toList
  · refine Or.inr ⟨rewritable, ?_⟩
    rw [Name.conformText, String.toList_ofList]
    exact Name.keepsLetters_conform convention rewritable
  · refine Or.inl ⟨rewritable, ?_⟩
    rw [Name.conformText, Name.conform_of_not_isRewritable convention rewritable,
      String.ofList_toList]

/-- Doubled and final underscores leave no trace, and a raised numeral is itself. -/
example : Name.conformText .underscoreLowerCamel "__get__http_1x_" = "_getHttp1x" := by
  decide +kernel

/--
A name of letters, numerals and underscores whose first character besides underscores is a
letter stays an identifier under every convention.
-/
theorem isIdentifier_conformText (convention : Convention) {name : String} {first : Char}
    (plain : ∀ character ∈ name.toList, Name.isWord character = true ∨ character = '_')
    (found : name.toList.find? (· ≠ '_') = some first)
    (letter : Text.isLetter first = true) :
    Name.IsIdentifier (Name.conformText convention name).toList := by
  have rewritable : Name.IsRewritable name.toList :=
    ⟨plain, first, List.mem_of_find?_eq_some found, by simpa using List.find?_some found⟩
  rw [Name.conformText, String.toList_ofList]
  apply Name.isIdentifier_of_isOnePiece (Name.isOnePiece_conform convention rewritable)
  exact (Name.keepsLetters_conform convention rewritable).exists_first found letter

/-- A digraph is raised behind the underscores and lowered again behind the mark. -/
theorem isIdentifier_conformText_digraph :
    (∀ character ∈ "__ǆemal_1".toList, Name.isWord character = true ∨ character = '_') ∧
      "__ǆemal_1".toList.find? (· ≠ '_') = some 'ǆ' ∧ Text.isLetter 'ǆ' = true ∧
      Name.conformText .underscoreLowerCamel "__ǆemal_1" = "_ǆemal1" ∧
      Name.IsIdentifier (Name.conformText .underscoreLowerCamel "__ǆemal_1").toList := by
  have plain :
      ∀ character ∈ "__ǆemal_1".toList, Name.isWord character = true ∨ character = '_' :=
    Name.isPlain_iff.mp (by decide +kernel)
  have found : "__ǆemal_1".toList.find? (· ≠ '_') = some 'ǆ' := by
    decide +kernel
  have letter : Text.isLetter 'ǆ' = true := by
    decide +kernel
  exact ⟨plain, found, letter, by decide +kernel,
    isIdentifier_conformText .underscoreLowerCamel plain found letter⟩

end CasingLint
