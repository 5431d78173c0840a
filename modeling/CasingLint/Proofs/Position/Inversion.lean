import CasingLint.Proofs.Position
import CasingLint.Report.Document
import Mathlib.Order.Bounds.Defs

/-!
# Places can be turned back into offsets

A line and a column say where in a text they lie: behind the lines before, each with its line
feed, and as many characters of the line itself as the column counts.  The place of an offset
is the place of the last character boundary up to it, so for a boundary nothing is lost.  A
later offset has a text before it that begins with the text before the earlier one, and hence
a later place, or the same.
-/

namespace CasingLint.Position

open CasingLint.Text

/-! ## The place after whole lines and a part of the next one -/

theorem takeWhile_reverse_closedLines (lines : List (List Char)) :
    (closedLines lines).reverse.takeWhile (· ≠ '\n') = [] := by
  rcases List.eq_nil_or_concat lines with rfl | ⟨earlier, line, rfl⟩
  · rfl
  · simp [closedLines]

/-- The place after closed lines and an open one is in the open one. -/
theorem after_closedLines {lines : List (List Char)} {last : List Char}
    (free : ∀ line ∈ lines, '\n' ∉ line) (lastFree : '\n' ∉ last) :
    after (closedLines lines ++ last) = ⟨lines.length + 1, last.length⟩ := by
  have line : (closedLines lines ++ last).count '\n' + 1 = lines.length + 1 := by
    rw [← length_splitAt, splitAt_closedLines free, splitAt_of_not_mem lastFree,
      List.length_append, List.length_singleton]
  have inLast : ∀ character ∈ last.reverse, decide (character ≠ '\n') = true := by
    intro character member
    rw [decide_eq_true_eq]
    rintro rfl
    exact lastFree (List.mem_reverse.mp member)
  have column : (closedLines lines ++ last).reverse.takeWhile (· ≠ '\n') = last.reverse := by
    rw [List.reverse_append, List.takeWhile_append_of_pos inLast,
      takeWhile_reverse_closedLines, List.append_nil]
  rw [after, line, column, List.length_reverse]

/-! ## Places in a text -/

/--
Is a place that of a character of a text, given by how many there are before it?  Its line is
a line of the text, its column lies in this line or at its end, and what stands before it are
the lines before, each with its line feed, and the characters up to the column.
-/
structure IsPlaceOf (place : Position) (text : List Char) (index : Nat) : Prop where
  line_pos : 1 ≤ place.line
  line_le : place.line ≤ (splitAt '\n' text).length
  column_le : ∃ line, (splitAt '\n' text)[place.line - 1]? = some line ∧
    place.column ≤ line.length
  index_eq : index =
    place.column + (((splitAt '\n' text).take (place.line - 1)).map (·.length + 1)).sum

theorem isPlaceOf_after (before rest : List Char) :
    (after before).IsPlaceOf (before ++ rest) before.length := by
  rcases exists_closedLines before with ⟨lines, last, rfl, free, lastFree⟩
  rcases exists_splitAt_open lastFree rest with ⟨more, others, split⟩
  rw [after_closedLines free lastFree]
  have pieces : splitAt '\n' (closedLines lines ++ last ++ rest) =
      lines ++ (last ++ more) :: others := by
    rw [List.append_assoc, splitAt_closedLines free, split]
  refine ⟨Nat.le_add_left 1 _, ?_, ?_, ?_⟩
  · rw [pieces, List.length_append, List.length_cons]
    exact Nat.add_le_add_left (Nat.le_add_left 1 _) _
  · rw [pieces]
    exact ⟨last ++ more, by simp, by simp⟩
  · rw [pieces, Nat.add_sub_cancel, List.take_left, ← length_closedLines, List.length_append,
      Nat.add_comm]

/-! ## Order -/

/-- Does a place come before another one, or are they the same? -/
def Precedes (left right : Position) : Prop :=
  left.line < right.line ∨ left.line = right.line ∧ left.column ≤ right.column

theorem after_precedes (before more : List Char) :
    (after before).Precedes (after (before ++ more)) := by
  by_cases free : '\n' ∈ more
  · left
    simp only [after, List.count_append]
    have some := List.count_pos_iff.mpr free
    omega
  · right
    have inMore : ∀ character ∈ more.reverse, decide (character ≠ '\n') = true := by
      intro character member
      rw [decide_eq_true_eq]
      rintro rfl
      exact free (List.mem_reverse.mp member)
    constructor
    · simp [after, List.count_eq_zero_of_not_mem free]
    · rw [after, after, List.reverse_append, List.takeWhile_append_of_pos inMore,
        List.length_append]
      exact Nat.le_add_left _ _

/-! ## The text before an offset -/

/-- At a boundary the text before it is read whole. -/
theorem textBefore_of_boundary {text : String} {before rest : List Char}
    (split : text.toList = before ++ rest) :
    textBefore text (Utf8.encode before).length = before := by
  simp [textBefore, split, Utf8.decodeLossy_encode]

/-- An offset counts as the last boundary up to it. -/
theorem isGreatest_textBefore (text : String) (offset : Int) :
    IsGreatest
      {boundary | boundary ∈ Utf8.boundaries text.toList ∧
        boundary ≤ min offset.toNat (Utf8.encode text.toList).length}
      (Utf8.encode (textBefore text offset)).length := by
  rcases exists_textBefore text offset with ⟨rest, fragment, split, isFragment, taken⟩
  have size : min offset.toNat (Utf8.encode text.toList).length =
      (Utf8.encode (textBefore text offset)).length + fragment.length := by
    rw [← List.length_take, taken, List.length_append]
  rw [size]
  constructor
  · exact ⟨Utf8.mem_boundaries_iff.mpr ⟨_, rest, split, rfl⟩, Nat.le_add_right _ _⟩
  · rintro boundary ⟨member, below⟩
    by_contra later
    rw [Nat.not_le] at later
    rw [split] at member
    have behind := Utf8.mem_boundaries_append member (Nat.le_of_lt later)
    -- A boundary behind the text before the offset is behind the whole next character.
    cases isFragment with
    | atEnd =>
        rw [Utf8.boundaries, List.mem_singleton] at behind
        omega
    | within isFront short =>
        rw [Utf8.boundaries, List.mem_cons, List.mem_map] at behind
        rcases behind with same | ⟨inner, _, same⟩
        · omega
        · omega

theorem textBefore_isPrefix {text : String} {first last : Int} (forward : first ≤ last) :
    textBefore text first <+: textBefore text last := by
  rcases exists_textBefore text first with ⟨restFirst, _, splitFirst, _, _⟩
  rcases exists_textBefore text last with ⟨restLast, _, splitLast, _, _⟩
  have both : textBefore text first ++ restFirst = textBefore text last ++ restLast := by
    rw [← splitFirst, ← splitLast]
  rcases List.append_eq_append_iff.mp both with ⟨more, longer, _⟩ | ⟨more, shorter, _⟩
  · exact ⟨more, longer.symm⟩
  · -- The boundary for the smaller offset is one for the larger offset too.
    rcases (isGreatest_textBefore text first).1 with ⟨isBoundary, below⟩
    have bound : (Utf8.encode (textBefore text first)).length ≤
        (Utf8.encode (textBefore text last)).length :=
      (isGreatest_textBefore text last).2 ⟨isBoundary, by omega⟩
    have none : more = [] := by
      rw [← Utf8.encode_eq_nil_iff, ← List.length_eq_zero_iff]
      rw [shorter, Utf8.encode_append, List.length_append] at bound
      omega
    refine ⟨[], ?_⟩
    rw [shorter, none, List.append_nil, List.append_nil]

theorem ofOffset_precedes (text : String) {first last : Int} (forward : first ≤ last) :
    (ofOffset text first).Precedes (ofOffset text last) := by
  rcases textBefore_isPrefix forward with ⟨more, longer⟩
  rw [ofOffset, ofOffset, ← longer]
  exact after_precedes _ more

/--
The place of a character boundary can be turned back into the number of characters before it;
any other offset has the place of the last boundary up to it, where an offset outside the text
counts as its nearest end.  Hence places are ordered as their offsets are, and no range of a
report ends before it starts.
-/
theorem ofOffset_isPlaceOf (text : String) :
    (∀ index ≤ text.toList.length,
      (ofOffset text (Utf8.encode (text.toList.take index)).length).IsPlaceOf
        text.toList index) ∧
      (∀ offset : Int, ∃ boundary : Nat,
        IsGreatest
          {boundary | boundary ∈ Utf8.boundaries text.toList ∧
            boundary ≤ min offset.toNat (Utf8.encode text.toList).length} boundary ∧
          ofOffset text offset = ofOffset text boundary) ∧
      (∀ first last : Int, first ≤ last →
        (ofOffset text first).Precedes (ofOffset text last)) ∧
      ∀ start stop : Int, start ≤ stop →
        ∃ first last : Position, first.Precedes last ∧
          Report.rangeValue text start stop =
            .record
              [("startLine", .ofNat first.line), ("startCol", .ofNat first.column),
                ("endLine", .ofNat last.line), ("endCol", .ofNat last.column)] := by
  refine ⟨?_, ?_, fun first last => ofOffset_precedes text, ?_⟩
  · intro index inside
    have split : text.toList = text.toList.take index ++ text.toList.drop index :=
      (List.take_append_drop index text.toList).symm
    have place := isPlaceOf_after (text.toList.take index) (text.toList.drop index)
    rw [← split, List.length_take_of_le inside] at place
    rw [ofOffset, textBefore_of_boundary split]
    exact place
  · intro offset
    rcases exists_textBefore text offset with ⟨rest, _, split, _, _⟩
    refine ⟨_, isGreatest_textBefore text offset, ?_⟩
    rw [ofOffset, ofOffset, textBefore_of_boundary split]
  · intro start stop forward
    exact ⟨_, _, ofOffset_precedes text forward, rfl⟩

/-- Inside a character of three octets, and in a range that ends behind the text. -/
theorem ofOffset_isPlaceOf_euro :
    (ofOffset "a\n€b" 2).IsPlaceOf "a\n€b".toList 2 ∧
      (ofOffset "a\n€b" 4).Precedes (ofOffset "a\n€b" 40) :=
  ⟨(ofOffset_isPlaceOf "a\n€b").1 2 (by decide),
    (ofOffset_isPlaceOf "a\n€b").2.2.1 4 40 (by decide)⟩

end CasingLint.Position
