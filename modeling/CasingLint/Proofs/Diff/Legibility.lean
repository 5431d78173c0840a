import CasingLint.Proofs.Diff.Reading

/-!
# When a printed difference can be read

The printed lines are joined without anything between them.  So a line without a line feed at
its end, be it the last line of a version or one that is cut after another separator, runs into
the next printed line.  Reading then does not find the hunks that were printed.  The main
statement says exactly when it does, for all texts, and for texts in which every line end has a
line feed that this is also exactly when the printed difference leads from the old text to the
new one.  With other line ends the numbers of the lines count as well: they lead to the hunks
only if no such line end comes before them.
-/

namespace CasingLint.Diff

open CasingLint.Text

/-! ## The lines of a version -/

theorem flatten_linesFrom (line text : List Char) :
    (linesFrom line text).flatten = line.reverse ++ text := by
  fun_induction linesFrom line text with
  | case1 line empty => simp_all
  | case2 line some => simp
  | case3 line rest ih => simp [ih]
  | case4 line character rest _ ends ih => simp [ih]
  | case5 line character rest _ goesOn ih => simp [ih]

/-- The lines of a text make up the text. -/
theorem flatten_keptLines (text : List Char) : (keptLines text).flatten = text :=
  flatten_linesFrom [] text

theorem isCut_of_mem_linesFrom {line text : List Char} (free : '\n' ∉ line) :
    ∀ other ∈ linesFrom line text, IsCut other := by
  fun_induction linesFrom line text with
  | case1 line empty => exact List.forall_mem_nil _
  | case2 line some =>
      rw [List.forall_mem_singleton]
      exact Or.inr ⟨by simpa using some, by simpa using free⟩
  | case3 line rest ih =>
      refine List.forall_mem_cons.mpr ⟨Or.inl ⟨line.reverse ++ ['\r'], ?_, ?_⟩, ih (by simp)⟩
      · simpa using free
      · simp
  | case4 line character rest _ ends ih =>
      refine List.forall_mem_cons.mpr ⟨?_, ih (by simp)⟩
      rw [List.reverse_cons]
      by_cases feed : character = '\n'
      · exact Or.inl ⟨line.reverse, by simpa using free, by rw [feed]⟩
      · exact Or.inr ⟨by simp, by simp [free, Ne.symm feed]⟩
  | case5 line character rest _ goesOn ih =>
      have notFeed : '\n' ≠ character := by
        rintro rfl
        exact goesOn rfl
      exact ih (by simp [notFeed, free])

theorem isCut_of_mem_keptLines (text : List Char) : ∀ line ∈ keptLines text, IsCut line :=
  isCut_of_mem_linesFrom List.not_mem_nil

/-- Does every line end of a text have a line feed in it, so that it is cut there only? -/
def IsFed (text : String) : Prop :=
  feedLines text.toList = keptLines text.toList

instance (text : String) : Decidable (IsFed text) :=
  inferInstanceAs (Decidable (_ = _))

theorem IsFed.isClosed {text : String} (fed : IsFed text) :
    ∀ line ∈ (keptLines text.toList).dropLast, IsClosed line := by
  rw [← fed]
  exact fun line => isClosed_of_mem_dropLast

/-! ## The lines of hunks -/

/-- Lines are printed with a mark in front, and a heading before them. -/
theorem Hunk.forall_mem_lines {hunk : Hunk} {holds : Line → Prop}
    (heading : holds hunk.heading)
    (marked : ∀ {mark : Char} {line : Line}, mark ≠ '\n' → holds line → holds (mark :: line))
    (old : ∀ line ∈ hunk.pieces.flatMap Piece.before, holds line)
    (new : ∀ line ∈ hunk.pieces.flatMap Piece.after, holds line) :
    ∀ line ∈ hunk.lines, holds line := by
  refine List.forall_mem_cons.mpr ⟨heading, ?_⟩
  intro line member
  rcases List.mem_flatMap.mp member with ⟨piece, among, printed⟩
  have inOld {line : Line} (inside : line ∈ piece.before) : holds line :=
    old line (List.mem_flatMap.mpr ⟨piece, among, inside⟩)
  have inNew {line : Line} (inside : line ∈ piece.after) : holds line :=
    new line (List.mem_flatMap.mpr ⟨piece, among, inside⟩)
  cases piece with
  | same lines =>
      rcases List.mem_map.mp printed with ⟨line, inside, rfl⟩
      exact marked (by decide) (inOld inside)
  | change removed added =>
      rcases List.mem_append.mp printed with printed | printed
      · rcases List.mem_map.mp printed with ⟨line, inside, rfl⟩
        exact marked (by decide) (inOld inside)
      · rcases List.mem_map.mp printed with ⟨line, inside, rfl⟩
        exact marked (by decide) (inNew inside)

section

variable {old new : Nat} {oldLines newLines : List Line} {hunks : List Hunk}
  {holds : Line → Prop}

theorem Covers.forall_mem (covers : Covers old new oldLines newLines hunks)
    (oldHolds : ∀ line ∈ oldLines, holds line) (newHolds : ∀ line ∈ newLines, holds line) :
    ∀ hunk ∈ hunks, (∀ line ∈ hunk.pieces.flatMap Piece.before, holds line) ∧
      ∀ line ∈ hunk.pieces.flatMap Piece.after, holds line := by
  induction covers with
  | done old new lines => exact List.forall_mem_nil _
  | hunk gap oldStart newStart goesOn rest ih =>
      simp only [List.forall_mem_append] at oldHolds newHolds
      exact List.forall_mem_cons.mpr
        ⟨⟨oldHolds.2.1, newHolds.2.1⟩, ih oldHolds.2.2 newHolds.2.2⟩

/-- The lines of a hunk that is not the last are not the last lines of the versions. -/
theorem Covers.forall_mem_dropLast (covers : Covers old new oldLines newLines hunks)
    (oldHolds : ∀ line ∈ oldLines.dropLast, holds line)
    (newHolds : ∀ line ∈ newLines.dropLast, holds line) :
    ∀ hunk ∈ hunks.dropLast, (∀ line ∈ hunk.pieces.flatMap Piece.before, holds line) ∧
      ∀ line ∈ hunk.pieces.flatMap Piece.after, holds line := by
  induction covers with
  | done old new lines => exact List.forall_mem_nil _
  | @hunk old new gap hunk hunks oldRest newRest oldStart newStart goesOn rest ih =>
      cases hunks with
      | nil => exact List.forall_mem_nil _
      | cons next others =>
          rcases goesOn (List.cons_ne_nil _ _) with ⟨oldMore, newMore⟩
          rw [← List.append_assoc, List.dropLast_append_of_ne_nil oldMore] at oldHolds
          rw [← List.append_assoc, List.dropLast_append_of_ne_nil newMore] at newHolds
          simp only [List.forall_mem_append] at oldHolds newHolds
          exact List.forall_mem_cons.mpr
            ⟨⟨oldHolds.1.2, newHolds.1.2⟩, ih oldHolds.2 newHolds.2⟩

end

/-- The hunks of the difference between two texts. -/
def shownHunks (before after : String) : List Hunk :=
  hunks (align (keptLines before.toList) (keptLines after.toList))

theorem covers_shownHunks (before after : String) :
    Covers 0 0 (keptLines before.toList) (keptLines after.toList) (shownHunks before after) :=
  covers_align _ _

theorem Covers.eq_of_nil {old new : Nat} {oldLines newLines : List Line}
    (covers : Covers old new oldLines newLines []) :
    oldLines = newLines := by
  cases covers
  rfl

/-- Different texts have different lines. -/
theorem shownHunks_ne_nil {before after : String} (different : before ≠ after) :
    shownHunks before after ≠ [] := by
  intro none
  have covers := covers_shownHunks before after
  rw [none] at covers
  have sameText := congrArg List.flatten covers.eq_of_nil
  rw [flatten_keptLines, flatten_keptLines] at sameText
  exact different (String.toList_inj.mp sameText)

/-- The lines that are printed for hunks. -/
def printedLines (shown : List Hunk) : List Line :=
  shown.flatMap Hunk.lines

/-- What headings have, and the lines of both texts also with a mark, the printed lines have. -/
theorem forall_mem_printedLines {before after : String} {holds : Line → Prop}
    (heading : ∀ hunk : Hunk, holds hunk.heading)
    (marked : ∀ {mark : Char} {line : Line}, mark ≠ '\n' → holds line → holds (mark :: line))
    (old : ∀ line ∈ keptLines before.toList, holds line)
    (new : ∀ line ∈ keptLines after.toList, holds line) :
    ∀ line ∈ printedLines (shownHunks before after), holds line := by
  intro line member
  rcases List.mem_flatMap.mp member with ⟨hunk, shown, printed⟩
  have inside := (covers_shownHunks before after).forall_mem old new hunk shown
  exact Hunk.forall_mem_lines (heading hunk) marked inside.1 inside.2 line printed

theorem isCut_of_mem_printedLines (before after : String) :
    ∀ line ∈ printedLines (shownHunks before after), IsCut line :=
  forall_mem_printedLines (fun hunk => Or.inl (isClosed_heading hunk)) IsCut.cons
    (isCut_of_mem_keptLines _) (isCut_of_mem_keptLines _)

/-- In texts that are cut at line feeds only the last hunk can show an open line. -/
theorem isClosed_of_mem_dropLast_shownHunks {before after : String} (fedBefore : IsFed before)
    (fedAfter : IsFed after) :
    ∀ hunk ∈ (shownHunks before after).dropLast, ∀ line ∈ hunk.lines, IsClosed line := by
  intro hunk shown
  have closed := (covers_shownHunks before after).forall_mem_dropLast fedBefore.isClosed
    fedAfter.isClosed hunk shown
  exact Hunk.forall_mem_lines (isClosed_heading hunk) IsClosed.cons closed.1 closed.2

/-! ## Reading what is printed -/

/-- Hunks are read as they were printed exactly if no printed line but the last is open. -/
theorem readBlocks?_printedLines_iff {shown : List Hunk}
    (cut : ∀ line ∈ printedLines shown, IsCut line) :
    readBlocks? (feedLines (printedLines shown).flatten) = some (shown.map Hunk.block) ↔
      ∀ line ∈ (printedLines shown).dropLast, IsClosed line := by
  have readPrinted : readBlocks? (printedLines shown) = some (shown.map Hunk.block) := by
    have readAll := readBlocks?_flatMap shown []
    rwa [List.append_nil, show readBlocks? [] = some [] from rfl, Option.map_some,
      List.append_nil] at readAll
  constructor
  · intro read
    rcases exists_starts cut with ⟨starts, -, begin, complete⟩
    apply complete
    rw [begin.length_eq, length_of_readBlocks? read, length_of_readBlocks? readPrinted]
  · intro closed
    rw [feedLines_flatten cut closed, readPrinted]

/-- If lines run together in the last hunk only, then reading does not succeed in another way. -/
theorem isClosed_of_readBlocks? {shown : List Hunk}
    (cut : ∀ line ∈ printedLines shown, IsCut line)
    (closed : ∀ hunk ∈ shown.dropLast, ∀ line ∈ hunk.lines, IsClosed line)
    (read : (readBlocks? (feedLines (printedLines shown).flatten)).isSome = true) :
    ∀ line ∈ (printedLines shown).dropLast, IsClosed line := by
  rcases List.eq_nil_or_concat shown with rfl | ⟨front, hunk, rfl⟩
  · exact List.forall_mem_nil _
  rw [List.concat_eq_append] at cut closed read ⊢
  have parts : printedLines (front ++ [hunk]) = printedLines front ++ hunk.lines := by
    simp [printedLines]
  rw [List.dropLast_concat] at closed
  rw [parts] at cut read ⊢
  have frontClosed : ∀ line ∈ printedLines front, IsClosed line := by
    simpa [printedLines] using fun line other member inside => closed other member line inside
  rw [List.flatten_append, feedLines_flatten_append frontClosed, printedLines,
    readBlocks?_flatMap, Option.isSome_map, Hunk.lines_eq, List.flatten_cons,
    feedLines_append_of_closed (isClosed_heading hunk), readBlocks?_heading,
    Option.isSome_map] at read
  have rowsCut : ∀ row ∈ hunk.block.rows, IsCut row.text := by
    intro row member
    apply cut
    rw [Hunk.lines_eq]
    exact List.mem_append_right _ (List.mem_cons_of_mem _ (List.mem_map_of_mem member))
  have rowsClosed := isClosed_of_readFrom rowsCut read
  rw [Hunk.lines_eq, List.dropLast_append_of_ne_nil (List.cons_ne_nil _ _), List.forall_mem_append]
  exact ⟨frontClosed, forall_mem_dropLast_cons (isClosed_heading hunk) rowsClosed⟩

/-! ## Names -/

/-- How the line begins that names the old version. -/
def oldMark : List Char := ['-', '-', '-', ' ', 'a', '/']

/-- How the line begins that names the new version. -/
def newMark : List Char := ['+', '+', '+', ' ', 'b', '/']

/-- A difference of a file, with the two lines that name its versions. -/
def headed (path body : List Char) : List Char :=
  oldMark ++ (path ++ '\n' :: (newMark ++ (path ++ '\n' :: body)))

theorem toList_join_hunkText (shown : List Hunk) :
    (String.join (shown.map hunkText)).toList = (printedLines shown).flatten := by
  induction shown with
  | nil => rfl
  | cons hunk shown ih => simpa [printedLines, toList_hunkText] using ih

theorem toList_unified (path : String) {before after : String} (different : before ≠ after) :
    (unified path before after).toList =
      headed path.toList (printedLines (shownHunks before after)).flatten := by
  have some : (shownHunks before after).isEmpty = false := by
    simpa using shownHunks_ne_nil different
  rw [← toList_join_hunkText, unified]
  rw [shownHunks] at some ⊢
  simp [some, headed, oldMark, newMark]

theorem readPatch?_headed {path : List Char} (free : '\n' ∉ path) (body : List Char) :
    readPatch? (headed path body) = readBlocks? (feedLines body) := by
  have oldName : IsClosed (oldMark ++ path ++ ['\n']) :=
    ⟨oldMark ++ path, by simp [oldMark, free], rfl⟩
  have newName : IsClosed (newMark ++ path ++ ['\n']) :=
    ⟨newMark ++ path, by simp [newMark, free], rfl⟩
  have names : headed path body = (oldMark ++ path ++ ['\n']) ++
      ((newMark ++ path ++ ['\n']) ++ body) := by
    simp [headed]
  rw [names, readPatch?, feedLines_append_of_closed oldName, feedLines_append_of_closed newName]
  simp [oldMark, newMark]

theorem feedLines_closedLines {lines : List (List Char)} (free : ∀ line ∈ lines, '\n' ∉ line)
    (rest : List Char) :
    feedLines (closedLines lines ++ rest) = lines.map (· ++ ['\n']) ++ feedLines rest := by
  rw [closedLines, List.flatMap_def]
  apply feedLines_flatten_append
  rw [List.forall_mem_map]
  exact fun line member => ⟨line, free line member, rfl⟩

theorem exists_pathLines {path : List Char} (feed : '\n' ∈ path) :
    ∃ first second tail, (∀ line ∈ first :: second :: tail, '\n' ∉ line) ∧
      path ++ ['\n'] = closedLines (first :: second :: tail) := by
  rcases exists_closedLines path with ⟨lines, last, rfl, free, lastFree⟩
  cases lines with
  | nil => contradiction
  | cons first lines =>
      have whole : closedLines (first :: lines) ++ last ++ ['\n'] =
          closedLines (first :: (lines ++ [last])) := by
        simp [closedLines]
      have allFree : ∀ line ∈ first :: (lines ++ [last]), '\n' ∉ line := by
        rw [← List.cons_append, List.forall_mem_append]
        exact ⟨free, by simpa using lastFree⟩
      rcases List.exists_cons_of_ne_nil (List.append_ne_nil_of_right_ne_nil lines
        (List.cons_ne_nil last [])) with ⟨second, tail, behind⟩
      rw [behind] at whole allFree
      exact ⟨first, second, tail, allFree, whole⟩

/-- A path of several lines gives no difference that can be read. -/
theorem readPatch?_headed_of_mem {path body : List Char} (feed : '\n' ∈ path)
    (heads : ∃ heading rest, feedLines body = heading :: rest ∧ Row.ofText? heading = none) :
    readPatch? (headed path body) = none := by
  rcases exists_pathLines feed with ⟨first, second, tail, free, whole⟩
  rcases heads with ⟨heading, rest, cut, unmarked⟩
  rcases List.forall_mem_cons.mp free with ⟨firstFree, othersFree⟩
  have twice : headed path body =
      closedLines ((oldMark ++ first) :: second :: tail) ++
        (closedLines ((newMark ++ first) :: second :: tail) ++ body) := by
    have step (text : List Char) :
        path ++ '\n' :: text = closedLines (first :: second :: tail) ++ text := by
      rw [← whole, List.append_assoc, List.singleton_append]
    rw [headed, step, step]
    simp
  have oldFree : ∀ line ∈ (oldMark ++ first) :: second :: tail, '\n' ∉ line :=
    List.forall_mem_cons.mpr ⟨by simp [oldMark, firstFree], othersFree⟩
  have newFree : ∀ line ∈ (newMark ++ first) :: second :: tail, '\n' ∉ line :=
    List.forall_mem_cons.mpr ⟨by simp [newMark, firstFree], othersFree⟩
  rw [twice, readPatch?, feedLines_closedLines oldFree, feedLines_closedLines newFree, cut]
  simp only [List.map_cons, List.cons_append]
  split_ifs with named
  · rcases named.2 with ⟨more, second⟩
    rw [← second]
    have unread := @readFrom_path (tail.map (· ++ ['\n'])) rest (newMark.tail ++ first ++ ['\n'])
      ("++ ".toList ++ more) heading unmarked
    rw [readBlocks?, Option.map_eq_none_iff, ← Option.not_isSome_iff_eq_none, Bool.not_eq_true]
    exact unread
  · rfl

theorem exists_heading {shown : List Hunk} (some : shown ≠ []) :
    ∃ heading rest, feedLines (printedLines shown).flatten = heading :: rest ∧
      Row.ofText? heading = none := by
  rcases List.exists_cons_of_ne_nil some with ⟨hunk, others, rfl⟩
  refine ⟨hunk.heading, feedLines ((hunk.pieces.flatMap pieceLines).flatten ++
    (printedLines others).flatten), ?_, ofText?_of_readHeading? (readHeading?_heading hunk)⟩
  rw [← feedLines_append_of_closed (isClosed_heading hunk)]
  simp [printedLines, Hunk.lines]

/-! ## Legible differences -/

/-- Is the path a single line, and does every printed line but the last end with a line feed? -/
def IsLegible (path : String) (shown : List Hunk) : Prop :=
  '\n' ∉ path.toList ∧ ∀ line ∈ (printedLines shown).dropLast, line.getLast? = some '\n'

instance (path : String) (shown : List Hunk) : Decidable (IsLegible path shown) :=
  inferInstanceAs (Decidable (_ ∧ _))

/-- Does counting line feeds lead to each hunk, up to its end? -/
def IsPlaced (before : String) (shown : List Hunk) : Prop :=
  ∀ hunk ∈ shown, (feedLines before.toList).take hunk.oldEnd =
    (keptLines before.toList).take hunk.oldEnd

instance (before : String) (shown : List Hunk) : Decidable (IsPlaced before shown) :=
  inferInstanceAs (Decidable (∀ hunk ∈ shown, _))

theorem IsFed.isPlaced {before : String} (fed : IsFed before) (shown : List Hunk) :
    IsPlaced before shown := by
  intro hunk _
  rw [show feedLines before.toList = keptLines before.toList from fed]

section

variable {before after : String} (path : String)

theorem isLegible_iff :
    IsLegible path (shownHunks before after) ↔ '\n' ∉ path.toList ∧
      ∀ line ∈ (printedLines (shownHunks before after)).dropLast, IsClosed line := by
  refine and_congr_right fun _ => forall₂_congr fun line member => ?_
  exact (isCut_of_mem_printedLines before after line (List.dropLast_subset _ member))
    |>.isClosed_iff.symm

/-- What is read in a printed difference: nothing, if the path has a line feed in it. -/
theorem readPatch?_unified (different : before ≠ after) :
    readPatch? (unified path before after).toList =
      if '\n' ∈ path.toList then none
      else readBlocks? (feedLines (printedLines (shownHunks before after)).flatten) := by
  rw [toList_unified path different]
  split_ifs with feed
  · exact readPatch?_headed_of_mem feed (exists_heading (shownHunks_ne_nil different))
  · exact readPatch?_headed feed _

theorem readPatch?_unified_iff (different : before ≠ after) :
    readPatch? (unified path before after).toList =
        some ((shownHunks before after).map Hunk.block) ↔
      IsLegible path (shownHunks before after) := by
  rw [readPatch?_unified path different, isLegible_iff,
    ← readBlocks?_printedLines_iff (isCut_of_mem_printedLines before after)]
  by_cases feed : '\n' ∈ path.toList <;> simp [feed]

theorem patched?_of_isLegible (different : before ≠ after)
    (legible : IsLegible path (shownHunks before after))
    (placed : IsPlaced before (shownHunks before after)) :
    patched? (unified path before after) before = some after := by
  have whole : (feedLines before.toList).flatten = (keptLines before.toList).flatten := by
    rw [flatten_feedLines, flatten_keptLines]
  rcases (covers_shownHunks before after).exists_applyFrom whole placed with
    ⟨result, applied, made⟩
  rw [patched?, (readPatch?_unified_iff path different).mpr legible, Option.bind_some, applied,
    Option.map_some, made, flatten_keptLines, String.ofList_toList]

theorem isLegible_of_patched? (different : before ≠ after)
    (fedBefore : IsFed before) (fedAfter : IsFed after)
    (read : (patched? (unified path before after) before).isSome = true) :
    IsLegible path (shownHunks before after) := by
  have readable : (readPatch? (unified path before after).toList).isSome = true := by
    rcases Option.isSome_iff_exists.mp read with ⟨result, made⟩
    rcases Option.bind_eq_some_iff.mp made with ⟨blocks, found, -⟩
    rw [found]
    rfl
  rw [readPatch?_unified path different] at readable
  split at readable
  · exact absurd readable Bool.false_ne_true
  · rename_i free
    exact (isLegible_iff path).mpr ⟨free, isClosed_of_readBlocks?
      (isCut_of_mem_printedLines before after)
      (isClosed_of_mem_dropLast_shownHunks fedBefore fedAfter) readable⟩

end

/--
The hunks of a difference turn the old lines into the new ones, for any two texts.  The printed
difference is read as these hunks exactly if it is legible.  If also counting line feeds leads
to each hunk, then applying the printed difference to the old text gives the new text.  Where
all line ends have a line feed, it does so exactly if it is legible.
-/
theorem unified_describes_iff (path : String) {before after : String}
    (different : before ≠ after) :
    applyFrom 0 0 (keptLines before.toList) ((shownHunks before after).map Hunk.block) =
        some (keptLines after.toList) ∧
      (readPatch? (unified path before after).toList =
          some ((shownHunks before after).map Hunk.block) ↔
        IsLegible path (shownHunks before after)) ∧
      (IsLegible path (shownHunks before after) → IsPlaced before (shownHunks before after) →
        patched? (unified path before after) before = some after) ∧
      (IsFed before → IsFed after →
        (patched? (unified path before after) before = some after ↔
          IsLegible path (shownHunks before after))) := by
  refine ⟨applyFrom_hunks _ _, readPatch?_unified_iff path different,
    patched?_of_isLegible path different, ?_⟩
  intro fedBefore fedAfter
  constructor
  · intro applied
    apply isLegible_of_patched? path different fedBefore fedAfter
    rw [applied]
    rfl
  · intro legible
    exact patched?_of_isLegible path different legible (fedBefore.isPlaced _)

theorem unified_describes_iff_sample :
    patched? (unified "a.cs" "class foo { }\r\nclass Bar { }" "class Foo { }\r\nclass Bar { }")
      "class foo { }\r\nclass Bar { }" = some "class Foo { }\r\nclass Bar { }" :=
  ((unified_describes_iff "a.cs" (by decide)).2.2.2 (by decide +kernel) (by decide +kernel)).mpr
    (by decide +kernel)

/-- A line that ends with a form feed, or with nothing, runs into the next printed line. -/
theorem unified_runsTogether :
    unified "a.cs" "\x0cclass foo { }\n" "\x0cclass Foo { }\n" =
        "--- a/a.cs\n+++ b/a.cs\n@@ -1,2 +1,2 @@\n \x0c-class foo { }\n+class Foo { }\n" ∧
      patched? (unified "a.cs" "\x0cclass foo { }\n" "\x0cclass Foo { }\n")
        "\x0cclass foo { }\n" = none ∧
      unified "a.cs" "class foo { }" "class Foo { }" =
        "--- a/a.cs\n+++ b/a.cs\n@@ -1 +1 @@\n-class foo { }+class Foo { }" ∧
      patched? (unified "a.cs" "class foo { }" "class Foo { }") "class foo { }" = none := by
  decide +kernel

end CasingLint.Diff
