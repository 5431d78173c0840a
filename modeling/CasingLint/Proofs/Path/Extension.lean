import CasingLint.Path
import Mathlib.Data.List.TakeWhile

/-!
# File names and extensions

The extension of a path starts at the last dot of its file name, if something other than dots
stands before it.  A file name without that, such as `.cs`, ends in a dot and letters but has no
extension.
-/

namespace CasingLint.Path

/-- The end of a path is the end of its file name, as long as no slash is in it. -/
theorem suffix_fileName_iff {path : String} {ending : List Char} (oneLevel : '/' ∉ ending) :
    ending <:+ fileName path ↔ ending <:+ path.toList := by
  rw [fileName, ← List.reverse_prefix, List.reverse_reverse, ← List.reverse_prefix]
  constructor
  · exact fun begins => begins.trans (List.takeWhile_prefix _)
  · rintro ⟨front, split⟩
    have stays : ∀ character ∈ ending.reverse, decide (character ≠ '/') = true := by
      intro character member
      exact decide_eq_true fun same => oneLevel (same ▸ List.mem_reverse.mp member)
    rw [← split, List.takeWhile_append_of_pos stays]
    exact List.prefix_append _ _

theorem takeWhile_reverse_append {tail : List Char} (front : List Char) (plain : '.' ∉ tail) :
    ((front ++ '.' :: tail).reverse.takeWhile (· ≠ '.')).reverse = tail := by
  have stays : ∀ character ∈ tail.reverse, decide (character ≠ '.') = true := by
    intro character member
    exact decide_eq_true fun same => plain (same ▸ List.mem_reverse.mp member)
  rw [List.reverse_append, List.reverse_cons, List.append_assoc,
    List.takeWhile_append_of_pos stays]
  simp

theorem exists_last_dot {name : List Char} (dotted : '.' ∈ name) :
    ∃ front tail, name = front ++ '.' :: tail ∧ '.' ∉ tail := by
  rcases List.eq_append_cons_of_mem (List.mem_reverse.mpr dotted) with
    ⟨tail, front, split, plain⟩
  refine ⟨front.reverse, tail.reverse, ?_, fun member => plain (List.mem_reverse.mp member)⟩
  rw [← List.reverse_reverse name, split]
  simp

theorem dropWhile_ne_cons_dot (name rest : List Char) :
    name.dropWhile (· = '.') ≠ '.' :: rest := by
  intro starts
  have notDot := List.head_dropWhile_not (· = '.') (starts ▸ List.cons_ne_nil '.' rest)
  simp [starts] at notDot

/-- Where an extension starts. -/
theorem extension_eq_iff {path : String} {tail : List Char} (plain : '.' ∉ tail) :
    extension path = '.' :: tail ↔
      ∃ front, fileName path = front ++ '.' :: tail ∧ ∃ character ∈ front, character ≠ '.' := by
  rw [extension]
  constructor
  · intro found
    split at found
    · rename_i dotted
      rcases exists_last_dot (List.contains_iff_mem.mp dotted) with ⟨front, last, split, lastPlain⟩
      rw [split, takeWhile_reverse_append front lastPlain, List.cons.injEq] at found
      rcases found with ⟨-, rfl⟩
      refine ⟨(fileName path).takeWhile (· = '.') ++ front, ?_, ?_⟩
      · rw [List.append_assoc, ← split, List.takeWhile_append_dropWhile]
      · cases front with
        | nil => exact absurd split (dropWhile_ne_cons_dot _ _)
        | cons character rest =>
            refine ⟨character, List.mem_append_right _ List.mem_cons_self, ?_⟩
            rintro rfl
            exact dropWhile_ne_cons_dot _ _ split
    · cases found
  · rintro ⟨front, split, character, member, notDot⟩
    have remains : (front.dropWhile (· = '.')).isEmpty = false := by
      rw [Bool.eq_false_iff, ne_eq, List.isEmpty_iff, List.dropWhile_eq_nil_iff]
      exact fun dots => notDot (of_decide_eq_true (dots character member))
    rw [split, List.dropWhile_append, remains, if_neg Bool.false_ne_true, if_pos (by simp),
      takeWhile_reverse_append _ plain]

end CasingLint.Path
