import CasingLint.Proofs.Diff.Patch
import Mathlib.Tactic.SplitIfs

/-!
# Hunks describe the change

The hunks of an alignment are taken as the blocks of a patch, without printing them.  They
cover the two versions: between two hunks both versions have the same lines, at least one of
them, and each hunk stands where its numbers say.  Hence applying the blocks to the lines of
the old version gives the lines of the new one, for any two lists of lines.
-/

namespace CasingLint.Diff

/-! ## Hunks as blocks -/

/-- The rows of a piece. -/
def Piece.rows : Piece → List Row
  | .same lines => lines.map .keep
  | .change removed added => removed.map .remove ++ added.map .add

@[simp]
theorem Piece.flatMap_before_rows (piece : Piece) :
    piece.rows.flatMap Row.before = piece.before := by
  cases piece <;> simp [Piece.rows, Piece.before, List.flatMap_map, Row.before]

@[simp]
theorem Piece.flatMap_after_rows (piece : Piece) :
    piece.rows.flatMap Row.after = piece.after := by
  cases piece <;> simp [Piece.rows, Piece.after, List.flatMap_map, Row.after]

theorem Piece.map_text_rows (piece : Piece) : piece.rows.map Row.text = pieceLines piece := by
  cases piece <;> simp [Piece.rows, pieceLines, Row.text, Function.comp_def]

/-- The place of lines of which some come before, as a heading gives it. -/
def Extent.ofStart (start size : Nat) : Extent :=
  ⟨if size = 0 then start else start + 1, size⟩

@[simp]
theorem Extent.linesBefore_ofStart (start size : Nat) :
    (Extent.ofStart start size).linesBefore = start := by
  by_cases none : size = 0 <;> simp [Extent.ofStart, Extent.linesBefore, none]

/-- How many lines of the old version there are up to the end of a hunk. -/
def Hunk.oldEnd (hunk : Hunk) : Nat :=
  hunk.oldStart + oldSize hunk.pieces

/-- How many lines of the new version there are up to the end of a hunk. -/
def Hunk.newEnd (hunk : Hunk) : Nat :=
  hunk.newStart + newSize hunk.pieces

/-- A hunk as a block of a patch. -/
def Hunk.block (hunk : Hunk) : Block where
  old := .ofStart hunk.oldStart (oldSize hunk.pieces)
  new := .ofStart hunk.newStart (newSize hunk.pieces)
  rows := hunk.pieces.flatMap Piece.rows

@[simp]
theorem Hunk.before_block (hunk : Hunk) :
    hunk.block.before = hunk.pieces.flatMap Piece.before := by
  simp [Hunk.block, Block.before, List.flatMap_assoc]

@[simp]
theorem Hunk.after_block (hunk : Hunk) :
    hunk.block.after = hunk.pieces.flatMap Piece.after := by
  simp [Hunk.block, Block.after, List.flatMap_assoc]

/-! ## Covering both versions -/

/--
Do hunks cover what remains of two versions, behind `old` and `new` lines of them?  Before each
hunk there is a gap of common lines, and behind the last one common lines only.  Behind a hunk
that is not the last both versions go on.
-/
inductive Covers : Nat → Nat → List Line → List Line → List Hunk → Prop where
  | done (old new : Nat) (lines : List Line) : Covers old new lines lines []
  | hunk {old new : Nat} (gap : List Line) {hunk : Hunk} {hunks : List Hunk}
      {oldRest newRest : List Line}
      (oldStart : hunk.oldStart = old + gap.length)
      (newStart : hunk.newStart = new + gap.length)
      (goesOn : hunks ≠ [] → oldRest ≠ [] ∧ newRest ≠ [])
      (rest : Covers hunk.oldEnd hunk.newEnd oldRest newRest hunks) :
      Covers old new (gap ++ (hunk.pieces.flatMap Piece.before ++ oldRest))
        (gap ++ (hunk.pieces.flatMap Piece.after ++ newRest)) (hunk :: hunks)

/-- A block is applied where it stands, and the blocks behind it to what comes after it. -/
theorem applyFrom_block {old new : Nat} {gap : List Line} {hunk : Hunk}
    (oldStart : hunk.oldStart = old + gap.length) (newStart : hunk.newStart = new + gap.length)
    (rest : List Line) (blocks : List Block) :
    applyFrom old new (gap ++ (hunk.pieces.flatMap Piece.before ++ rest)) (hunk.block :: blocks) =
      (applyFrom hunk.oldEnd hunk.newEnd rest blocks).map
        (gap ++ hunk.pieces.flatMap Piece.after ++ ·) := by
  have oldGap : hunk.block.old.linesBefore - old = gap.length := by
    simp [Hunk.block, oldStart]
  have oldPlace : hunk.block.old.linesBefore = hunk.oldStart := by
    simp [Hunk.block]
  have newPlace : hunk.block.new.linesBefore = hunk.newStart := by
    simp [Hunk.block]
  simp only [applyFrom, oldGap, List.take_left, List.drop_left]
  rw [if_pos]
  · rw [oldPlace, newPlace, Hunk.before_block, Hunk.after_block, List.drop_left]
    rfl
  · refine ⟨by rw [oldPlace, oldStart], by rw [newPlace, newStart], ?_⟩
    rw [Hunk.before_block]
    exact List.prefix_append _ _

section

variable {old new : Nat} {oldLines newLines : List Line} {hunks : List Hunk}

theorem Covers.applyFrom_eq (covers : Covers old new oldLines newLines hunks) :
    applyFrom old new oldLines (hunks.map Hunk.block) = some newLines := by
  induction covers with
  | done old new lines => rfl
  | hunk gap oldStart newStart goesOn rest ih =>
      rw [List.map_cons, applyFrom_block oldStart newStart, ih]
      simp

/-- A text may also be cut into lines in another way behind the last hunk. -/
theorem Covers.exists_applyFrom (covers : Covers old new oldLines newLines hunks)
    {lines : List Line} (whole : lines.flatten = oldLines.flatten)
    (placed : ∀ hunk ∈ hunks,
      lines.take (hunk.oldEnd - old) = oldLines.take (hunk.oldEnd - old)) :
    ∃ result, applyFrom old new lines (hunks.map Hunk.block) = some result ∧
      result.flatten = newLines.flatten := by
  induction covers generalizing lines with
  | done old new others => exact ⟨lines, rfl, whole⟩
  | @hunk old new gap hunk hunks oldRest newRest oldStart newStart goesOn rest ih =>
      rcases List.forall_mem_cons.mp placed with ⟨first, others⟩
      have size : hunk.oldEnd - old = (gap ++ hunk.pieces.flatMap Piece.before).length := by
        rw [Hunk.oldEnd, oldStart, List.length_append, oldSize]
        omega
      -- Up to the end of the hunk the lines are those of the old version.
      obtain ⟨behind, rfl⟩ :
          ∃ behind, lines = gap ++ (hunk.pieces.flatMap Piece.before ++ behind) := by
        refine ⟨lines.drop (hunk.oldEnd - old), ?_⟩
        rw [size, ← List.append_assoc, List.take_left] at first
        rw [← List.append_assoc, ← first, size, List.take_append_drop]
      have placedBehind : ∀ other ∈ hunks,
          behind.take (other.oldEnd - hunk.oldEnd) = oldRest.take (other.oldEnd - hunk.oldEnd) := by
        intro other member
        have later : other.oldEnd - old - (hunk.oldEnd - old) = other.oldEnd - hunk.oldEnd := by
          have beyond : old ≤ hunk.oldEnd := by
            rw [Hunk.oldEnd, oldStart]
            omega
          omega
        have same := congrArg (List.drop (hunk.oldEnd - old)) (others other member)
        rw [List.drop_take, List.drop_take, later, size, ← List.append_assoc,
          ← List.append_assoc, List.drop_left, List.drop_left] at same
        exact same
      rcases ih (by simpa using whole) placedBehind with ⟨result, applied, made⟩
      refine ⟨gap ++ hunk.pieces.flatMap Piece.after ++ result, ?_, ?_⟩
      · rw [List.map_cons, applyFrom_block oldStart newStart, applied]
        rfl
      · simp [made]

end

/-! ## Gathering -/

@[simp]
theorem flatMap_before_unchanged (lines : List Line) :
    (unchanged lines).flatMap Piece.before = lines := by
  cases lines <;> simp [unchanged, Piece.before]

@[simp]
theorem flatMap_after_unchanged (lines : List Line) :
    (unchanged lines).flatMap Piece.after = lines := by
  cases lines <;> simp [unchanged, Piece.after]

/-- Pieces without a change are the same in both versions. -/
theorem flatMap_before_eq_after {pieces : List Piece} (same : hasChange pieces = false) :
    pieces.flatMap Piece.before = pieces.flatMap Piece.after := by
  induction pieces with
  | nil => rfl
  | cons piece rest ih =>
      cases piece with
      | same lines =>
          have restSame : hasChange rest = false := by
            simpa [hasChange] using same
          simp only [List.flatMap_cons, ih restSame, Piece.before, Piece.after]
      | change removed added => simp [hasChange] at same

theorem length_lastLines_le (lines : List Line) : (lastLines lines).length ≤ lines.length := by
  rw [lastLines, List.length_drop]
  exact Nat.sub_le _ _

/-- The lines between the margins of two hunks. -/
theorem exists_between {lines : List Line} (long : 2 * margin < lines.length) :
    ∃ between, between ≠ [] ∧ lines.drop margin = between ++ lastLines lines := by
  have front : margin + (lines.length - 2 * margin) = lines.length - margin := by
    omega
  refine ⟨(lines.drop margin).take (lines.length - 2 * margin), ?_, ?_⟩
  · rw [← List.length_pos_iff, List.length_take, List.length_drop]
    omega
  · rw [lastLines, ← front, ← List.drop_drop, List.take_append_drop]

/-- A hunk that ends with a margin of common lines. -/
def closed (hunk : Hunk) (lines : List Line) : Hunk :=
  { hunk with pieces := hunk.pieces ++ unchanged (lines.take margin) }

theorem oldEnd_closed (hunk : Hunk) (lines : List Line) :
    (closed hunk lines).oldEnd =
      hunk.oldStart + (oldSize hunk.pieces + (lines.take margin).length) := by
  simp [Hunk.oldEnd, oldSize, closed]

theorem newEnd_closed (hunk : Hunk) (lines : List Line) :
    (closed hunk lines).newEnd =
      hunk.newStart + (newSize hunk.pieces + (lines.take margin).length) := by
  simp [Hunk.newEnd, newSize, closed]

theorem before_closed (hunk : Hunk) (lines rest : List Line) :
    (closed hunk lines).pieces.flatMap Piece.before ++ (lines.drop margin ++ rest) =
      hunk.pieces.flatMap Piece.before ++ (lines ++ rest) := by
  rw [closed, List.flatMap_append, flatMap_before_unchanged, List.append_assoc,
    ← List.append_assoc (lines.take margin), List.take_append_drop]

theorem after_closed (hunk : Hunk) (lines rest : List Line) :
    (closed hunk lines).pieces.flatMap Piece.after ++ (lines.drop margin ++ rest) =
      hunk.pieces.flatMap Piece.after ++ (lines ++ rest) := by
  rw [closed, List.flatMap_append, flatMap_after_unchanged, List.append_assoc,
    ← List.append_assoc (lines.take margin), List.take_append_drop]

/-- A hunk that begins with a margin of common lines, which end where the numbers say. -/
def opened (oldNext newNext : Nat) (lines : List Line) : Hunk :=
  ⟨oldNext - (lastLines lines).length, newNext - (lastLines lines).length,
    unchanged (lastLines lines)⟩

theorem opened_oldStart (oldNext newNext : Nat) (lines : List Line) :
    (opened oldNext newNext lines).oldStart = oldNext - (lastLines lines).length := rfl

theorem opened_newStart (oldNext newNext : Nat) (lines : List Line) :
    (opened oldNext newNext lines).newStart = newNext - (lastLines lines).length := rfl

@[simp]
theorem before_opened (oldNext newNext : Nat) (lines : List Line) :
    (opened oldNext newNext lines).pieces.flatMap Piece.before = lastLines lines :=
  flatMap_before_unchanged _

@[simp]
theorem after_opened (oldNext newNext : Nat) (lines : List Line) :
    (opened oldNext newNext lines).pieces.flatMap Piece.after = lastLines lines :=
  flatMap_after_unchanged _

section

variable {old new oldStart newStart : Nat} {hunk : Hunk}

/--
The hunk under way stands behind a gap, and the pieces that remain begin where it ends.  The
numbers of the next hunk are counted back from the end of the common lines before it.
-/
theorem covers_gather_some (pieces : List Piece) (gap : List Line)
    (oldPlace : hunk.oldStart = old + gap.length) (newPlace : hunk.newStart = new + gap.length)
    (oldNext : oldStart = hunk.oldStart + oldSize hunk.pieces)
    (newNext : newStart = hunk.newStart + newSize hunk.pieces) :
    Covers old new
      (gap ++ (hunk.pieces.flatMap Piece.before ++ pieces.flatMap Piece.before))
      (gap ++ (hunk.pieces.flatMap Piece.after ++ pieces.flatMap Piece.after))
      (gather (some hunk) oldStart newStart pieces) := by
  induction pieces generalizing old new oldStart newStart hunk gap with
  | nil => exact .hunk gap oldPlace newPlace (by simp) (.done _ _ [])
  | cons piece rest ih =>
      -- A piece that joins the hunk moves the ends of the hunk by its own lines.
      have joined := @ih old new (oldStart + piece.before.length) (newStart + piece.after.length)
        { hunk with pieces := hunk.pieces ++ [piece] } gap oldPlace newPlace
        (by simp [oldSize, oldNext, Nat.add_assoc]) (by simp [newSize, newNext, Nat.add_assoc])
      simp only [List.flatMap_append, List.flatMap_cons, List.flatMap_nil, List.append_nil,
        List.append_assoc] at joined
      cases piece with
      | change removed added => exact joined
      | same lines =>
          rw [List.flatMap_cons, List.flatMap_cons, gather]
          simp only [Piece.before, Piece.after]
          split_ifs with last long
          · have common := flatMap_before_eq_after (by simpa using last)
            rw [← before_closed, ← after_closed, common]
            exact .hunk gap oldPlace newPlace (by simp) (.done _ _ _)
          · rcases exists_between long with ⟨between, some, parts⟩
            have size : lines.length =
                (lines.take margin).length + (between.length + (lastLines lines).length) := by
              rw [← List.length_append, ← parts, ← List.length_append, List.take_append_drop]
            have next := @ih (closed hunk lines).oldEnd (closed hunk lines).newEnd
              (oldStart + lines.length) (newStart + lines.length)
              (opened (oldStart + lines.length) (newStart + lines.length) lines) between
              (by rw [oldEnd_closed, opened_oldStart]; omega)
              (by rw [newEnd_closed, opened_newStart]; omega)
              (by rw [oldSize, before_opened, opened_oldStart]; omega)
              (by rw [newSize, after_opened, opened_newStart]; omega)
            rw [before_opened, after_opened, ← List.append_assoc, ← List.append_assoc, ← parts]
              at next
            rw [← before_closed, ← after_closed]
            refine .hunk gap oldPlace newPlace (fun _ => ?_) next
            simp [parts, some]
          · exact joined

end

/-- The hunks of an alignment cover the versions that it aligns. -/
theorem covers_hunks (pieces : List Piece) :
    Covers 0 0 (pieces.flatMap Piece.before) (pieces.flatMap Piece.after) (hunks pieces) := by
  cases pieces with
  | nil => exact .done 0 0 []
  | cons piece rest =>
      cases piece with
      | change removed added =>
          have covers := @covers_gather_some 0 0 removed.length added.length
            ⟨0, 0, [.change removed added]⟩ rest [] rfl rfl
            (by simp [oldSize, Piece.before]) (by simp [newSize, Piece.after])
          simpa [hunks, gather] using covers
      | same lines =>
          rw [hunks, gather]
          split_ifs with more
          · have shorter := length_lastLines_le lines
            have front : lines.take (lines.length - margin) ++ lastLines lines = lines :=
              List.take_append_drop _ lines
            have size : (lines.take (lines.length - margin)).length + (lastLines lines).length =
                lines.length := by
              rw [← List.length_append, front]
            have covers := @covers_gather_some 0 0 (0 + lines.length) (0 + lines.length)
              (opened (0 + lines.length) (0 + lines.length) lines) rest
              (lines.take (lines.length - margin))
              (by rw [opened_oldStart]; omega) (by rw [opened_newStart]; omega)
              (by rw [oldSize, before_opened, opened_oldStart]; omega)
              (by rw [newSize, after_opened, opened_newStart]; omega)
            rw [before_opened, after_opened, ← List.append_assoc, ← List.append_assoc, front]
              at covers
            exact covers
          · rw [List.flatMap_cons, List.flatMap_cons,
              flatMap_before_eq_after (by simpa using more)]
            exact .done 0 0 _

theorem covers_align (old new : List Line) : Covers 0 0 old new (hunks (align old new)) := by
  have covers := covers_hunks (align old new)
  rw [before_align, after_align] at covers
  exact covers

/-- The blocks of a difference turn the old lines into the new ones. -/
theorem applyFrom_hunks (old new : List Line) :
    applyFrom 0 0 old ((hunks (align old new)).map Hunk.block) = some new :=
  (covers_align old new).applyFrom_eq

end CasingLint.Diff
