import CasingLint.Proofs.Diff.Hunks

/-!
# Reading printed hunks

A printed hunk is read as the block that it is, and then the rest of the lines as if they stood
alone.  A text can be read only if its rows make up what the headings announce; this is what
fails when rows run together.  It also fails when the path of the file has a line feed in it:
the lines of such a path are printed twice, and no reading fits both times.
-/

namespace CasingLint.Diff

open CasingLint.Text

/-! ## Headings -/

/-- The heading of a hunk. -/
def Hunk.heading (hunk : Hunk) : Line :=
  "@@".toList ++ ' ' :: ('-' :: (rangeText hunk.oldStart (oldSize hunk.pieces)).toList ++
    ' ' :: ('+' :: (rangeText hunk.newStart (newSize hunk.pieces)).toList ++
      ' ' :: "@@\n".toList))

/-- The lines that are printed for a hunk. -/
def Hunk.lines (hunk : Hunk) : List Line :=
  hunk.heading :: hunk.pieces.flatMap pieceLines

theorem Hunk.lines_eq (hunk : Hunk) :
    hunk.lines = hunk.heading :: hunk.block.rows.map Row.text := by
  simp [Hunk.lines, Hunk.block, List.map_flatMap, Piece.map_text_rows]

theorem toList_hunkText (hunk : Hunk) : (hunkText hunk).toList = hunk.lines.flatten := by
  simp [hunkText, Hunk.lines, Hunk.heading]

theorem isDigit_of_mem_toDigits {number : Nat} {character : Char}
    (member : character ∈ Nat.toDigits 10 number) :
    character.isDigit = true :=
  Nat.isDigit_of_mem_toDigits (by decide) (by decide) member

theorem not_mem_toDigits (character : Char) (other : character.isDigit = false) (number : Nat) :
    character ∉ Nat.toDigits 10 number := by
  intro member
  rw [isDigit_of_mem_toDigits member] at other
  contradiction

theorem readNumber?_toDigits (number : Nat) :
    readNumber? (Nat.toDigits 10 number) = some number := by
  have digits : (Nat.toDigits 10 number).all Char.isDigit = true :=
    List.all_eq_true.mpr fun digit member => isDigit_of_mem_toDigits member
  rw [readNumber?, if_pos ⟨Nat.toDigits_ne_nil, digits⟩, Nat.ofDigitChars_ten_toDigits]

/-- A range is a number of a line and, unless there is one line only, how many there are. -/
theorem toList_rangeText (start size : Nat) :
    (rangeText start size).toList =
      Nat.toDigits 10 (Extent.ofStart start size).number ++
        if size = 1 then [] else ',' :: Nat.toDigits 10 size := by
  by_cases one : size = 1
  · simp [rangeText, Extent.ofStart, one]
  by_cases none : size = 0
  · simp [rangeText, Extent.ofStart, none]
  · simp [rangeText, Extent.ofStart, one, none]

theorem not_mem_rangeText (character : Char) (notDigit : character.isDigit = false)
    (notComma : character ≠ ',') (start size : Nat) :
    character ∉ (rangeText start size).toList := by
  rw [toList_rangeText]
  split_ifs with one
  · simpa using not_mem_toDigits character notDigit _
  · simp [notComma, not_mem_toDigits character notDigit]

theorem readExtent?_rangeText (start size : Nat) :
    readExtent? (rangeText start size).toList = some (.ofStart start size) := by
  have free := not_mem_toDigits ',' rfl
  rw [toList_rangeText, readExtent?]
  split_ifs with one
  · rw [List.append_nil, splitAt_of_not_mem (free _)]
    simp [readNumber?_toDigits, Extent.ofStart, one]
  · rw [splitAt_append _ (free _), splitAt_of_not_mem (free _)]
    simp [readNumber?_toDigits, Extent.ofStart]

theorem readHeading?_heading (hunk : Hunk) :
    readHeading? hunk.heading = some (hunk.block.old, hunk.block.new) := by
  have free := not_mem_rangeText ' ' rfl (by decide)
  have parts : splitAt ' ' hunk.heading =
      [['@', '@'], '-' :: (rangeText hunk.oldStart (oldSize hunk.pieces)).toList,
        '+' :: (rangeText hunk.newStart (newSize hunk.pieces)).toList, ['@', '@', '\n']] := by
    rw [Hunk.heading, splitAt_append _ (by decide), splitAt_append _ (by simp [free]),
      splitAt_append _ (by simp [free])]
    rfl
  rw [readHeading?, parts]
  simp [readExtent?_rangeText, Hunk.block]

theorem isClosed_heading (hunk : Hunk) : IsClosed hunk.heading := by
  have free := not_mem_rangeText '\n' rfl (by decide)
  refine ⟨"@@".toList ++ ' ' :: ('-' :: (rangeText hunk.oldStart (oldSize hunk.pieces)).toList ++
    ' ' :: ('+' :: (rangeText hunk.newStart (newSize hunk.pieces)).toList ++
      ' ' :: "@@".toList)), ?_, ?_⟩
  · simp [free]
  · simp [Hunk.heading]

/-- A heading is no row. -/
theorem ofText?_of_readHeading? {line : Line} {extents : Extent × Extent}
    (read : readHeading? line = some extents) :
    Row.ofText? line = none := by
  rw [readHeading?] at read
  split at read
  · rename_i old new parts
    cases line with
    | nil => rfl
    | cons character rest =>
        -- The first piece, and with it the line, begins with the mark of a heading.
        have mark : character = '@' := by
          rw [splitAt] at parts
          split at parts
          · cases (List.cons.inj parts).1
          · split at parts
            · cases parts
            · cases parts
              rfl
        rw [mark]
        rfl
  · contradiction

/-! ## Rows and blocks -/

/-- Rows are read one after the other, and each counts towards what is announced. -/
theorem readFrom_rows (rows : List Row) (old new : Nat) (rest : List Line) :
    readFrom ((rows.flatMap Row.before).length + old) ((rows.flatMap Row.after).length + new)
        (rows.map Row.text ++ rest) =
      (readFrom old new rest).map fun read => (rows ++ read.1, read.2) := by
  induction rows with
  | nil => simp
  | cons row rows ih =>
      have some := row.size_pos
      have missing : ¬ (row.before.length + (rows.flatMap Row.before).length + old = 0 ∧
          row.after.length + (rows.flatMap Row.after).length + new = 0) := by
        omega
      simp only [List.flatMap_cons, List.length_append, List.map_cons, List.cons_append, readFrom,
        if_neg missing, Row.ofText?_text, Option.bind_some]
      rw [if_pos (by omega), Nat.add_assoc, Nat.add_sub_cancel_left, Nat.add_assoc,
        Nat.add_sub_cancel_left, ih, Option.map_map]
      rfl

theorem fst_of_readFrom {lines : List Line} {read : List Row × List Block}
    (found : readFrom 0 0 lines = some read) :
    read.1 = [] := by
  cases lines with
  | nil =>
      cases found
      rfl
  | cons line rest =>
      rw [readFrom, if_pos ⟨rfl, rfl⟩] at found
      rcases Option.bind_eq_some_iff.mp found with ⟨extents, -, readRest⟩
      rcases Option.map_eq_some_iff.mp readRest with ⟨others, -, rfl⟩
      rfl

theorem readBlocks?_heading (hunk : Hunk) (rest : List Line) :
    readBlocks? (hunk.heading :: rest) =
      (readFrom hunk.block.before.length hunk.block.after.length rest).map fun read =>
        ⟨hunk.block.old, hunk.block.new, read.1⟩ :: read.2 := by
  have oldCount : hunk.block.old.size = hunk.block.before.length := by
    rw [Hunk.before_block]
    rfl
  have newCount : hunk.block.new.size = hunk.block.after.length := by
    rw [Hunk.after_block]
    rfl
  rw [readBlocks?, readFrom, if_pos ⟨rfl, rfl⟩, readHeading?_heading, Option.bind_some, oldCount,
    newCount, Option.map_map]
  rfl

/-- A printed hunk is read as its block, and then the rest as if it stood alone. -/
theorem readBlocks?_lines (hunk : Hunk) (rest : List Line) :
    readBlocks? (hunk.lines ++ rest) = (readBlocks? rest).map (hunk.block :: ·) := by
  have readRows := readFrom_rows hunk.block.rows 0 0 rest
  rw [Nat.add_zero, Nat.add_zero] at readRows
  rw [Hunk.lines_eq, List.cons_append, readBlocks?_heading, Block.before, Block.after, readRows,
    readBlocks?]
  cases found : readFrom 0 0 rest with
  | none => rfl
  | some read => simp [fst_of_readFrom found]

theorem readBlocks?_flatMap (hunks : List Hunk) (rest : List Line) :
    readBlocks? (hunks.flatMap Hunk.lines ++ rest) =
      (readBlocks? rest).map (hunks.map Hunk.block ++ ·) := by
  induction hunks with
  | nil => simp
  | cons hunk hunks ih =>
      rw [List.flatMap_cons, List.append_assoc, readBlocks?_lines, ih, Option.map_map]
      rfl

/-! ## What can be read -/

/-- Every line is a row or a heading. -/
theorem length_of_readFrom {lines : List Line} {old new : Nat} {read : List Row × List Block}
    (found : readFrom old new lines = some read) :
    lines.length = read.1.length + (read.2.map (·.rows.length + 1)).sum := by
  induction lines generalizing old new read with
  | nil =>
      rw [readFrom] at found
      split at found
      · cases found
        rfl
      · contradiction
  | cons line rest ih =>
      rw [readFrom] at found
      split at found
      · rcases Option.bind_eq_some_iff.mp found with ⟨extents, -, readRest⟩
        rcases Option.map_eq_some_iff.mp readRest with ⟨others, foundRest, rfl⟩
        simp [ih foundRest]
        omega
      · rcases Option.bind_eq_some_iff.mp found with ⟨row, -, readRest⟩
        split at readRest
        · rcases Option.map_eq_some_iff.mp readRest with ⟨others, foundRest, rfl⟩
          simp [ih foundRest]
          omega
        · contradiction

theorem length_of_readBlocks? {lines : List Line} {blocks : List Block}
    (read : readBlocks? lines = some blocks) :
    lines.length = (blocks.map (·.rows.length + 1)).sum := by
  rcases Option.map_eq_some_iff.mp read with ⟨found, foundAll, rfl⟩
  rw [length_of_readFrom foundAll, fst_of_readFrom foundAll, List.length_nil, Nat.zero_add]

/-- A line that begins with a row counts as much as this row. -/
theorem exists_ofText?_of_isPrefix {row : Row} {line : Line} (begins : row.text <+: line) :
    ∃ other, Row.ofText? line = some other ∧
      other.before.length = row.before.length ∧ other.after.length = row.after.length := by
  rcases begins with ⟨more, rfl⟩
  cases row with
  | keep line => exact ⟨.keep (line ++ more), rfl, rfl, rfl⟩
  | remove line => exact ⟨.remove (line ++ more), rfl, rfl, rfl⟩
  | add line => exact ⟨.add (line ++ more), rfl, rfl, rfl⟩

/-- Lines that begin with rows can be read only if these make up what is announced. -/
theorem counts_of_readFrom {rows : List Row} {lines : List Line} {old new : Nat}
    (begins : List.Forall₂ (fun row line => row.text <+: line) rows lines)
    (read : (readFrom old new lines).isSome = true) :
    old = (rows.flatMap Row.before).length ∧ new = (rows.flatMap Row.after).length := by
  induction begins generalizing old new with
  | nil =>
      rw [readFrom] at read
      split at read
      · assumption
      · contradiction
  | @cons row line rows lines begin _ ih =>
      rcases exists_ofText?_of_isPrefix begin with ⟨other, isRow, sameOld, sameNew⟩
      rw [readFrom] at read
      split at read
      · cases heading : readHeading? line with
        | none => simp [heading] at read
        | some extents =>
            rw [ofText?_of_readHeading? heading] at isRow
            contradiction
      · rw [isRow, Option.bind_some] at read
        split at read
        · rename_i enough
          rw [Option.isSome_map] at read
          have counts := ih read
          simp only [List.flatMap_cons, List.length_append]
          omega
        · contradiction

/-- Some of the rows make up no more than all of them, and less if one is missing. -/
theorem count_of_sublist {chosen rows : List Row} (among : List.Sublist chosen rows) :
    (chosen.flatMap Row.before).length ≤ (rows.flatMap Row.before).length ∧
      (chosen.flatMap Row.after).length ≤ (rows.flatMap Row.after).length ∧
      ((chosen.flatMap Row.before).length = (rows.flatMap Row.before).length →
        (chosen.flatMap Row.after).length = (rows.flatMap Row.after).length →
          chosen.length = rows.length) := by
  induction among with
  | slnil => simp
  | @cons chosen rows row _ ih =>
      have size := row.size_pos
      simp only [List.flatMap_cons, List.length_append]
      omega
  | @cons_cons chosen rows row _ ih =>
      simp only [List.flatMap_cons, List.length_append, List.length_cons]
      omega

/-- Rows that run together cannot be read as what was announced. -/
theorem isClosed_of_readFrom {rows : List Row}
    (cut : ∀ row ∈ rows, IsCut row.text)
    (read : (readFrom (rows.flatMap Row.before).length (rows.flatMap Row.after).length
      (feedLines (rows.map Row.text).flatten)).isSome = true) :
    ∀ line ∈ (rows.map Row.text).dropLast, IsClosed line := by
  have lineCut : ∀ line ∈ rows.map Row.text, IsCut line := by
    simpa using cut
  rcases exists_starts lineCut with ⟨starts, among, begin, complete⟩
  rcases List.sublist_map_iff.mp among with ⟨chosen, amongRows, rfl⟩
  rw [List.forall₂_map_left_iff] at begin
  have counts := counts_of_readFrom begin read
  apply complete
  rw [List.length_map, List.length_map]
  exact (count_of_sublist amongRows).2.2 counts.1.symm counts.2.symm

/-! ## Paths of several lines -/

/-- What is missing of either version after some lines. -/
def leftAfter (old new : Nat) : List Line → Option (Nat × Nat)
  | [] => some (old, new)
  | line :: rest =>
    if old = 0 ∧ new = 0 then
      (readHeading? line).bind fun extents => leftAfter extents.1.size extents.2.size rest
    else
      (Row.ofText? line).bind fun row =>
        if row.before.length ≤ old ∧ row.after.length ≤ new then
          leftAfter (old - row.before.length) (new - row.after.length) rest
        else
          none

theorem exists_leftAfter {front rest : List Line} {old new : Nat}
    (read : (readFrom old new (front ++ rest)).isSome = true) :
    ∃ left, leftAfter old new front = some left ∧
      (readFrom left.1 left.2 rest).isSome = true := by
  induction front generalizing old new with
  | nil => exact ⟨(old, new), rfl, read⟩
  | cons line front ih =>
      rw [List.cons_append, readFrom] at read
      rw [leftAfter]
      split at read
      · rename_i complete
        cases heading : readHeading? line with
        | none => simp [heading] at read
        | some extents =>
            rw [heading, Option.bind_some, Option.isSome_map] at read
            simpa [complete] using ih read
      · rename_i missing
        cases isRow : Row.ofText? line with
        | none => simp [isRow] at read
        | some row =>
            rw [isRow, Option.bind_some] at read
            split at read
            · rename_i enough
              rw [Option.isSome_map] at read
              simpa [missing, enough] using ih read
            · contradiction

theorem left_of_added {line : Line} {rest : List Line} {old new : Nat}
    (read : (readFrom old new (('+' :: line) :: rest)).isSome = true) :
    0 < new ∧ (readFrom old (new - 1) rest).isSome = true := by
  rw [readFrom] at read
  split at read
  · cases heading : readHeading? ('+' :: line) with
    | none => simp [heading] at read
    | some extents => cases ofText?_of_readHeading? heading
  · rw [show Row.ofText? ('+' :: line) = some (.add line) from rfl, Option.bind_some] at read
    split at read
    · rename_i enough
      rw [Option.isSome_map] at read
      exact ⟨enough.2, read⟩
    · contradiction

/-- A line that is no row can be read only where nothing is missing. -/
theorem left_of_unmarked {line : Line} {rest : List Line} {old new : Nat}
    (unmarked : Row.ofText? line = none)
    (read : (readFrom old new (line :: rest)).isSome = true) :
    old = 0 ∧ new = 0 := by
  rw [readFrom, unmarked] at read
  split at read
  · assumption
  · contradiction

/--
The lines of a path from its third on, the first two of the second time behind them, the lines
from the third on again and then the heading of a hunk: the added lines in the middle would have
to be announced the first time and must not be announced the second time.
-/
theorem readFrom_path {tail rest : List Line} {first second heading : Line}
    (unmarked : Row.ofText? heading = none) :
    (readFrom 0 0
      (tail ++ ('+' :: first) :: ('+' :: second) :: (tail ++ heading :: rest))).isSome =
        false := by
  rw [← Bool.not_eq_true]
  intro read
  rcases exists_leftAfter read with ⟨⟨old, new⟩, left, readFirst⟩
  rcases left_of_added readFirst with ⟨firstMissing, readSecond⟩
  rcases left_of_added readSecond with ⟨secondMissing, readTail⟩
  cases tail with
  | nil =>
      cases left
      contradiction
  | cons line tail =>
      have heads : Row.ofText? line = none := by
        rw [List.cons_append, readFrom, if_pos ⟨rfl, rfl⟩] at read
        cases found : readHeading? line with
        | none => simp [found] at read
        | some extents => exact ofText?_of_readHeading? found
      rcases left_of_unmarked heads readTail with ⟨oldLeft, newLeft⟩
      rw [oldLeft, newLeft] at readTail
      rcases exists_leftAfter readTail with ⟨again, leftAgain, readHunk⟩
      obtain rfl : (old, new) = again := Option.some.inj (left.symm.trans leftAgain)
      have complete := left_of_unmarked unmarked readHunk
      omega

end CasingLint.Diff
