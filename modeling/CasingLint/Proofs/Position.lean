import CasingLint.Position
import CasingLint.Proofs.Text.Lines
import CasingLint.Proofs.Text.Utf8

/-!
# Places of offsets

What is read before an offset is a front part of the text, in whole characters.  An offset
inside a character adds a fragment of this character to the octets, in which there is no line
feed.  So lines can be counted in the octets before an offset as well as in the characters,
and the line that they give is always a line of the text.
-/

namespace CasingLint.Position

open CasingLint.Text

/-- The octets before an offset are those of the text before it and perhaps a fragment. -/
theorem exists_textBefore (text : String) (offset : Int) :
    ∃ after fragment,
      text.toList = textBefore text offset ++ after ∧ Utf8.IsFragment fragment after ∧
        (Utf8.encode text.toList).take offset.toNat =
          Utf8.encode (textBefore text offset) ++ fragment := by
  rcases Utf8.exists_take_encode text.toList offset.toNat with
    ⟨before, after, fragment, split, isFragment, taken⟩
  have same : textBefore text offset = before := by
    rw [textBefore, taken, Utf8.decodeLossy_encode_append, isFragment.decodeLossy_eq,
      List.append_nil]
  rw [same]
  exact ⟨after, fragment, split, isFragment, taken⟩

theorem count_lineFeed_take (text : String) (offset : Int) :
    ((Utf8.encode text.toList).take offset.toNat).count 10 =
      (textBefore text offset).count '\n' := by
  rcases exists_textBefore text offset with ⟨after, fragment, -, isFragment, taken⟩
  have none : fragment.count 10 = 0 := by
    rw [List.count_eq_zero]
    intro member
    have beyond := isFragment.le_of_mem member
    contradiction
  rw [taken, List.count_append, Utf8.count_lineFeed_encode, none, Nat.add_zero]

theorem line_pos (text : String) (offset : Int) :
    1 ≤ (ofOffset text offset).line :=
  Nat.le_add_left 1 _

/-- The line of an offset is one of the lines of the text. -/
theorem line_le_length (text : String) (offset : Int) :
    (ofOffset text offset).line ≤ (splitAt '\n' text.toList).length := by
  rcases exists_textBefore text offset with ⟨after, fragment, split, -, -⟩
  have fewer : (textBefore text offset).count '\n' ≤ text.toList.count '\n' := by
    rw [split, List.count_append]
    exact Nat.le_add_right _ _
  rw [length_splitAt]
  exact Nat.succ_le_succ fewer

end CasingLint.Position
