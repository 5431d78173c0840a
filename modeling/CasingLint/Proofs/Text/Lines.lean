import CasingLint.Text.Lines
import Mathlib.Algebra.GroupWithZero.Nat
import Mathlib.Data.List.Basic

/-!
# Pieces and line ends

The pieces of a text have no separator in them, and pieces without one are found again when
they are put together with it.  A text consists of lines closed by a line feed and a last one
that is open.  Where line ends are unified no carriage return is left, and a text without any
stays as it is.
-/

namespace CasingLint.Text

/-! ## Splitting -/

variable {separator : Char}

theorem not_mem_of_mem_splitAt {text piece : List Char}
    (member : piece ∈ splitAt separator text) :
    separator ∉ piece := by
  induction text generalizing piece with
  | nil =>
      rw [splitAt, List.mem_singleton] at member
      rw [member]
      exact List.not_mem_nil
  | cons character rest ih =>
      rw [splitAt] at member
      split at member
      · rcases List.mem_cons.mp member with rfl | later
        · exact List.not_mem_nil
        · exact ih later
      · rename_i other
        split at member
        · rename_i none
          exact absurd none (splitAt_ne_nil separator rest)
        · rename_i first pieces split
          rw [split] at ih
          rcases List.mem_cons.mp member with rfl | later
          · rw [List.mem_cons, not_or]
            exact ⟨Ne.symm other, ih List.mem_cons_self⟩
          · exact ih (List.mem_cons_of_mem first later)

theorem splitAt_of_not_mem {piece : List Char} (free : separator ∉ piece) :
    splitAt separator piece = [piece] := by
  induction piece with
  | nil => rfl
  | cons character rest ih =>
      rw [List.mem_cons, not_or] at free
      rw [splitAt, if_neg (Ne.symm free.1), ih free.2]

theorem splitAt_append {piece : List Char} (rest : List Char) (free : separator ∉ piece) :
    splitAt separator (piece ++ separator :: rest) = piece :: splitAt separator rest := by
  induction piece with
  | nil => rw [List.nil_append, splitAt, if_pos rfl]
  | cons character others ih =>
      rw [List.mem_cons, not_or] at free
      rw [List.cons_append, splitAt, if_neg (Ne.symm free.1), ih free.2]

/-- Splitting takes apart what was put together. -/
theorem splitAt_intercalate {pieces : List (List Char)}
    (free : ∀ piece ∈ pieces, separator ∉ piece) (some : pieces ≠ []) :
    splitAt separator ([separator].intercalate pieces) = pieces := by
  induction pieces with
  | nil => contradiction
  | cons first rest ih =>
      rcases List.forall_mem_cons.mp free with ⟨freeFirst, freeRest⟩
      cases rest with
      | nil =>
          rw [List.intercalate_singleton]
          exact splitAt_of_not_mem freeFirst
      | cons second others =>
          rw [List.intercalate_cons_cons, List.append_assoc, List.singleton_append,
            splitAt_append _ freeFirst, ih freeRest (List.cons_ne_nil second others)]

/-- The pieces are those that lists are split into. -/
theorem splitAt_eq_splitOn (text : List Char) :
    splitAt separator text = text.splitOn separator := by
  induction text with
  | nil => rfl
  | cons character rest ih =>
      rw [splitAt, ih, List.splitOn_cons_eq_if_modifyHead]
      by_cases same : character = separator
      · rw [if_pos same, if_pos (beq_iff_eq.mpr same)]
      · rw [if_neg same, if_neg (mt eq_of_beq same)]
        rcases List.exists_cons_of_ne_nil (List.splitOn_ne_nil separator rest) with
          ⟨piece, pieces, split⟩
        rw [split]
        rfl

/-- There is one piece more than there are separators. -/
theorem length_splitAt (text : List Char) :
    (splitAt separator text).length = text.count separator + 1 := by
  induction text with
  | nil => rfl
  | cons character rest ih =>
      rw [splitAt]
      split_ifs with same
      · rw [List.length_cons, ih, same, List.count_cons_self]
      · rw [List.count_cons_of_ne same, ← ih]
        split
        · rename_i none
          exact absurd none (splitAt_ne_nil separator rest)
        · rename_i piece pieces split
          rw [split]
          rfl

/-! ## Closed lines -/

/-- Lines, each with a line feed behind it. -/
def closedLines (lines : List (List Char)) : List Char :=
  lines.flatMap (· ++ ['\n'])

@[simp]
theorem closedLines_nil : closedLines [] = [] := rfl

@[simp]
theorem closedLines_cons (line : List Char) (lines : List (List Char)) :
    closedLines (line :: lines) = line ++ '\n' :: closedLines lines := by
  simp [closedLines]

theorem length_closedLines (lines : List (List Char)) :
    (closedLines lines).length = (lines.map (·.length + 1)).sum := by
  simp [closedLines, List.length_flatMap]

/-- Every text is made of closed lines and a last one that is open. -/
theorem exists_closedLines (text : List Char) :
    ∃ lines last, text = closedLines lines ++ last ∧ (∀ line ∈ lines, '\n' ∉ line) ∧
      '\n' ∉ last := by
  induction text with
  | nil => exact ⟨[], [], rfl, List.forall_mem_nil _, List.not_mem_nil⟩
  | cons character rest ih =>
      rcases ih with ⟨lines, last, rfl, free, lastFree⟩
      by_cases feed : character = '\n'
      · refine ⟨[] :: lines, last, ?_, ?_, lastFree⟩
        · simp [feed]
        · exact List.forall_mem_cons.mpr ⟨List.not_mem_nil, free⟩
      · -- The character joins the first line, which may be the open one.
        cases lines with
        | nil => exact ⟨[], character :: last, rfl, free, by simp [Ne.symm feed, lastFree]⟩
        | cons line lines =>
            rcases List.forall_mem_cons.mp free with ⟨lineFree, linesFree⟩
            refine ⟨(character :: line) :: lines, last, by simp, ?_, lastFree⟩
            exact List.forall_mem_cons.mpr ⟨by simp [Ne.symm feed, lineFree], linesFree⟩

section

variable {lines : List (List Char)} {last : List Char}

theorem splitAt_closedLines (free : ∀ line ∈ lines, '\n' ∉ line) (rest : List Char) :
    splitAt '\n' (closedLines lines ++ rest) = lines ++ splitAt '\n' rest := by
  induction lines with
  | nil => rfl
  | cons line lines ih =>
      rcases List.forall_mem_cons.mp free with ⟨lineFree, linesFree⟩
      rw [closedLines_cons, List.append_assoc, List.cons_append, splitAt_append _ lineFree,
        ih linesFree, List.cons_append]

theorem exists_splitAt_open (free : '\n' ∉ last) (rest : List Char) :
    ∃ more others, splitAt '\n' (last ++ rest) = (last ++ more) :: others := by
  induction last with
  | nil => exact List.exists_cons_of_ne_nil (splitAt_ne_nil '\n' rest)
  | cons character last ih =>
      rw [List.mem_cons, not_or] at free
      rcases ih free.2 with ⟨more, others, split⟩
      refine ⟨more, others, ?_⟩
      rw [List.cons_append, splitAt, if_neg (Ne.symm free.1), split]
      rfl

end

/-! ## Line ends -/

theorem unifyLineEnds_of_not_mem {text : List Char} (free : '\r' ∉ text) :
    unifyLineEnds text = text := by
  fun_induction unifyLineEnds text with
  | case1 => rfl
  | case2 rest ih => exact absurd List.mem_cons_self free
  | case3 rest _ ih => exact absurd List.mem_cons_self free
  | case4 character rest _ _ ih => rw [ih (List.not_mem_of_not_mem_cons free)]

theorem not_mem_unifyLineEnds (text : List Char) :
    '\r' ∉ unifyLineEnds text := by
  fun_induction unifyLineEnds text with
  | case1 => exact List.not_mem_nil
  | case2 rest ih => simpa using ih
  | case3 rest _ ih => simpa using ih
  | case4 character rest _ other ih =>
      have notReturn : character ≠ '\r' := fun same => other same
      simpa using ⟨Ne.symm notReturn, ih⟩

end CasingLint.Text
