import CasingLint.Proofs.Text.CaseTables
import CasingLint.Text.LowerText

/-!
# What lower-casing comes from

A character of a lower-case form comes from a single character, itself or another one, unless it
is a sigma or part of the two characters that the capital I with dot above becomes.  Which other
characters lead to it is read off the table.
-/

namespace CasingLint.Text

/-- Is a code point the image of no other code points than one source? -/
def isOnlyFrom (shifts : List Shift) (source image : Nat) : Bool :=
  shifts.all fun shift =>
    !shift.imageSpan.contains image || (shift.span.first + (image - shift.target)).beq source

theorem eq_or_eq_of_shiftCode {shifts : List Shift} {source image code : Nat}
    (only : isOnlyFrom shifts source image = true) (shifted : shiftCode shifts code = image) :
    code = image ∨ code = source := by
  rcases shiftCode_cases shifts code with ⟨unchanged, -⟩ | ⟨shift, member, contained, applied⟩
  · exact Or.inl (unchanged.symm.trans shifted)
  · have lands := Shift.imageSpan_contains contained
    have entry := List.all_eq_true.mp only shift member
    rw [← applied, shifted] at lands
    rw [lands, Bool.not_true, Bool.false_or, Nat.beq_eq] at entry
    rcases Span.contains_iff.mp contained with ⟨lower, -, -⟩
    exact Or.inr (by omega)

theorem eq_or_eq_of_oneLower {character capital letter : Char}
    (only : isOnlyFrom lowerShifts capital.toNat letter.toNat = true)
    (lowered : oneLower character = letter) :
    character = letter ∨ character = capital := by
  have shifted := (toNat_oneLower character).symm.trans (congrArg Char.toNat lowered)
  exact (eq_or_eq_of_shiftCode only shifted).imp Char.toNat_inj.mp Char.toNat_inj.mp

theorem eq_nil_of_lowerAfter {before text : List Char} (lowered : lowerAfter before text = []) :
    text = [] := by
  cases text with
  | nil => rfl
  | cons character rest =>
      rw [lowerAfter] at lowered
      split at lowered
      · cases lowered
      · split at lowered
        · cases lowered
        · cases lowered

/-- The first character of a lower-case form and the character that it comes from. -/
theorem exists_of_lowerAfter_eq_cons {before text rest : List Char} {letter : Char}
    (plain : letter ∉ ['ς', 'σ', 'i']) (lowered : lowerAfter before text = letter :: rest) :
    ∃ character tail, text = character :: tail ∧ oneLower character = letter ∧
      lowerAfter (character :: before) tail = rest := by
  cases text with
  | nil => cases lowered
  | cons character tail =>
      rw [lowerAfter] at lowered
      split at lowered
      · rcases List.cons.inj lowered with ⟨sigma, -⟩
        refine absurd ?_ plain
        rw [← sigma]
        split
        · simp
        · simp
      · split at lowered
        · rcases List.cons.inj lowered with ⟨rfl, -⟩
          simp at plain
        · rcases List.cons.inj lowered with ⟨same, others⟩
          exact ⟨character, tail, rfl, same, others⟩

end CasingLint.Text
