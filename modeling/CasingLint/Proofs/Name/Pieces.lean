import CasingLint.Proofs.Name.Letters
import CasingLint.Proofs.Text.Lines

/-!
# The normal form of a name by its pieces

Underscores cut a name into pieces, one more than there are underscores.  The normal form of the
name is put together from these pieces, each by itself: of the first one the letters and numerals
are kept, and of every other one the first character is raised, whatever it is, and the letters and
numerals among the others are kept.  An empty piece, which comes from an underscore at an end of
the name or from two in a row, adds nothing.

The machine that normalizes a name forgets at an underscore all that it has read, so its run over
the name falls into one run for each piece.  The same form comes from an index into the name that
looks one character ahead where the machine has its state.
-/

namespace CasingLint.Name

open CasingLint.Text

/-- The letters and numerals of a piece. -/
def keptPiece (piece : List Char) : List Char :=
  piece.filter isWord

/-- What becomes of a piece behind an underscore. -/
def raisedPiece : List Char → List Char
  | [] => []
  | first :: rest => oneUpper first :: keptPiece rest

/-- What becomes of the pieces of a name, put together. -/
def joinPieces : List (List Char) → List Char
  | [] => []
  | first :: others => keptPiece first ++ others.flatMap raisedPiece

/-! ## One piece -/

section

variable {piece : List Char}

theorem normalizeAfter_false_of_notMem (joined : '_' ∉ piece) :
    normalizeAfter false piece = keptPiece piece := by
  induction piece with
  | nil => rfl
  | cons character rest ih =>
      rw [List.mem_cons, not_or] at joined
      rw [normalizeAfter, if_neg (Ne.symm joined.1), if_neg Bool.false_ne_true, ih joined.2,
        keptPiece, keptPiece, List.filter_cons]

theorem normalizeAfter_true_of_notMem (joined : '_' ∉ piece) :
    normalizeAfter true piece = raisedPiece piece := by
  cases piece with
  | nil => rfl
  | cons first rest =>
      rw [List.mem_cons, not_or] at joined
      rw [normalizeAfter, if_neg (Ne.symm joined.1), if_pos rfl,
        normalizeAfter_false_of_notMem joined.2]
      rfl

end

/-! ## One character ahead -/

/--
The normal form by an index into the name, which looks one character ahead: behind an underscore
the next character is raised and passed over, unless it is an underscore too.  `read` is what comes
of the characters before the index.
-/
def normalizeFrom (name read : List Char) (index : Nat) : List Char :=
  if inside : index < name.length then
    if isWord name[index] then normalizeFrom name (read ++ [name[index]]) (index + 1)
    else
      match name[index + 1]? with
      | some next =>
        if name[index] = '_' ∧ next ≠ '_' then
          normalizeFrom name (read ++ [oneUpper next]) (index + 2)
        else
          normalizeFrom name read (index + 1)
      | none => normalizeFrom name read (index + 1)
  else
    read
termination_by name.length - index

/-- A character without a part in the normal form: no word character and no boundary. -/
theorem normalizeAfter_false_cons_dropped {character : Char} {rest : List Char}
    (dropped : isWord character = false)
    (unraised : character = '_' → rest.head? = none ∨ rest.head? = some '_') :
    normalizeAfter false (character :: rest) = normalizeAfter false rest := by
  by_cases same : character = '_'
  · rw [same, normalizeAfter_cons_underscore]
    cases rest with
    | nil => rfl
    | cons next more =>
        rcases unraised same with absent | doubled
        · contradiction
        · rw [Option.some.inj doubled, normalizeAfter_cons_underscore,
            normalizeAfter_cons_underscore]
  · have unkept : ¬isWord character = true := by
      simp [dropped]
    rw [normalizeAfter, if_neg same, if_neg Bool.false_ne_true, if_neg unkept]

/-- What was read up to the index is kept, and the machine starts afresh there. -/
theorem normalizeFrom_eq_append (name read : List Char) (index : Nat) :
    normalizeFrom name read index = read ++ normalizeAfter false (name.drop index) := by
  fun_induction normalizeFrom name read index with
  | case1 read index inside word ih =>
      rw [ih, List.drop_eq_getElem_cons inside, normalizeAfter,
        if_neg (ne_underscore_of_isWord word), if_neg Bool.false_ne_true, if_pos word,
        List.append_assoc, List.singleton_append]
  | case2 read index inside word next ahead boundary ih =>
      rcases List.getElem?_eq_some_iff.mp ahead with ⟨bound, rfl⟩
      rw [ih, List.drop_eq_getElem_cons inside, boundary.1, normalizeAfter_cons_underscore,
        List.drop_eq_getElem_cons bound, normalizeAfter, if_neg boundary.2, if_pos rfl,
        List.append_assoc, List.singleton_append]
  | case3 read index inside word next ahead apart ih =>
      rw [ih, List.drop_eq_getElem_cons inside,
        normalizeAfter_false_cons_dropped (Bool.eq_false_iff.mpr word)]
      intro same
      have doubled : next = '_' := not_not.mp fun differs => apart ⟨same, differs⟩
      rw [List.head?_drop, ahead, doubled]
      exact Or.inr rfl
  | case4 read index inside word last ih =>
      rw [ih, List.drop_eq_getElem_cons inside,
        normalizeAfter_false_cons_dropped (Bool.eq_false_iff.mpr word)]
      intro _
      rw [List.head?_drop]
      exact Or.inl last
  | case5 read index outside =>
      rw [List.drop_eq_nil_of_le (Nat.le_of_not_lt outside), normalizeAfter_nil, List.append_nil]

/-- Looking one character ahead comes to the same as keeping in mind the character before. -/
theorem normalize_eq_normalizeFrom (name : List Char) :
    normalize name = normalizeFrom name [] 0 := by
  rw [normalizeFrom_eq_append, List.nil_append, List.drop_zero, normalize]

/-! ## Pieces in a row -/

theorem normalizeAfter_append_underscore (boundary : Bool) (before rest : List Char) :
    normalizeAfter boundary (before ++ '_' :: rest) =
      normalizeAfter boundary before ++ normalizeAfter true rest := by
  rw [normalizeAfter_append, normalizeAfter_cons_underscore]

/-- Behind a boundary every piece is raised. -/
theorem normalizeAfter_true_intercalate {pieces : List (List Char)}
    (joined : ∀ piece ∈ pieces, '_' ∉ piece) :
    normalizeAfter true (['_'].intercalate pieces) = pieces.flatMap raisedPiece := by
  induction pieces with
  | nil => rfl
  | cons first others ih =>
      rcases List.forall_mem_cons.mp joined with ⟨firstJoined, othersJoined⟩
      cases others with
      | nil =>
          rw [List.intercalate_singleton, normalizeAfter_true_of_notMem firstJoined,
            List.flatMap_singleton]
      | cons second more =>
          rw [List.intercalate_cons_cons, List.append_assoc, List.singleton_append,
            normalizeAfter_append_underscore, normalizeAfter_true_of_notMem firstJoined,
            ih othersJoined, ← List.flatMap_cons]

theorem normalize_intercalate {pieces : List (List Char)}
    (joined : ∀ piece ∈ pieces, '_' ∉ piece) :
    normalize (['_'].intercalate pieces) = joinPieces pieces := by
  cases pieces with
  | nil => rfl
  | cons first others =>
      rcases List.forall_mem_cons.mp joined with ⟨firstJoined, othersJoined⟩
      rw [normalize, joinPieces]
      cases others with
      | nil =>
          rw [List.intercalate_singleton, normalizeAfter_false_of_notMem firstJoined,
            List.flatMap_nil, List.append_nil]
      | cons second more =>
          rw [List.intercalate_cons_cons, List.append_assoc, List.singleton_append,
            normalizeAfter_append_underscore, normalizeAfter_false_of_notMem firstJoined,
            normalizeAfter_true_intercalate othersJoined]

/--
The normal form of any name is put together from its pieces between underscores.  So that of a
plain name has no underscore left, and letters and numerals alone are left as they are.
-/
theorem normalize_eq_joinPieces (name : List Char) :
    normalize name = joinPieces (name.splitOn '_') ∧
      (isPlain name = true → '_' ∉ normalize name) ∧
      (IsWorded name → normalize name = name) := by
  refine ⟨?_, ?_, normalize_of_isWorded⟩
  · have joined : ∀ piece ∈ name.splitOn '_', '_' ∉ piece := by
      intro piece member
      rw [← splitAt_eq_splitOn] at member
      exact not_mem_of_mem_splitAt member
    have byPieces := normalize_intercalate joined
    rwa [List.intercalate_splitOn] at byPieces
  · intro plain
    exact underscore_notMem_of_isWorded (isWorded_normalize plain)

/-- Empty pieces at both ends and between two underscores. -/
theorem normalize_eq_joinPieces_doubled :
    let name := "_my__value_".toList
    isPlain name = true ∧
      name.splitOn '_' = [[], ['m', 'y'], [], ['v', 'a', 'l', 'u', 'e'], []] ∧
      normalize name = "MyValue".toList ∧ '_' ∉ normalize name ∧
      IsWorded "MyValue".toList ∧ normalize "MyValue".toList = "MyValue".toList := by
  have plain : isPlain "_my__value_".toList = true := by
    decide +kernel
  have byPieces := normalize_eq_joinPieces "_my__value_".toList
  have normal : normalize "_my__value_".toList = "MyValue".toList := by
    rw [byPieces.1]
    decide +kernel
  have worded : IsWorded "MyValue".toList := by
    rw [← normal]
    exact isWorded_normalize plain
  refine ⟨plain, by decide +kernel, normal, byPieces.2.1 plain, worded, ?_⟩
  exact (normalize_eq_joinPieces "MyValue".toList).2.2 worded

end CasingLint.Name
