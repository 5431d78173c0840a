import CasingLint.Diff.Unified
import CasingLint.Proofs.Text.Lines
import Mathlib.Data.List.Forall2

/-!
# Reading and applying a difference

This module says what a printed difference means to its reader.  The text is cut after each
line feed and nowhere else.  Behind two lines that name the versions come blocks: a heading
with the place and the number of lines in both versions, and as many rows as the heading
announces, each with a blank, a minus or a plus in front.  A patch is applied by copying the
lines up to a block, replacing the lines that the block shows, and going on behind them; a
block that is not at its place in both versions, or whose lines are not there, does not apply.

Reading is a machine that knows how many lines of either version the heading has announced and
the rows have not yet given.
-/

namespace CasingLint.Diff

open CasingLint.Text

/-! ## Lines -/

/-- The lines of a text, cut after each line feed and nowhere else. -/
def feedLines : List Char → List Line
  | [] => []
  | character :: rest =>
    if character = '\n' then
      [character] :: feedLines rest
    else
      match feedLines rest with
      | [] => [[character]]
      | line :: lines => (character :: line) :: lines

/-- The lines of a text make up the text. -/
theorem flatten_feedLines (text : List Char) : (feedLines text).flatten = text := by
  fun_induction feedLines text with
  | case1 => rfl
  | case2 rest ih => simp [ih]
  | case3 character rest _ none ih => simp_all
  | case4 character rest _ line lines cut ih => simp_all

/-- A line closed by its only line feed. -/
def IsClosed (line : Line) : Prop :=
  ∃ body, '\n' ∉ body ∧ line = body ++ ['\n']

/-- A line without a line feed. -/
def IsOpen (line : Line) : Prop :=
  line ≠ [] ∧ '\n' ∉ line

/-- A line as cutting a text leaves it: no line feed, or one at its end. -/
def IsCut (line : Line) : Prop :=
  IsClosed line ∨ IsOpen line

theorem IsClosed.cons {mark : Char} {line : Line} (other : mark ≠ '\n')
    (isClosed : IsClosed line) :
    IsClosed (mark :: line) := by
  rcases isClosed with ⟨body, free, rfl⟩
  exact ⟨mark :: body, by simp [Ne.symm other, free], rfl⟩

theorem IsOpen.cons {mark : Char} {line : Line} (other : mark ≠ '\n') (isOpen : IsOpen line) :
    IsOpen (mark :: line) :=
  ⟨by simp, by simp [Ne.symm other, isOpen.2]⟩

theorem IsCut.cons {mark : Char} {line : Line} (other : mark ≠ '\n') (isCut : IsCut line) :
    IsCut (mark :: line) :=
  isCut.imp (·.cons other) (·.cons other)

theorem IsClosed.getLast?_eq {line : Line} (isClosed : IsClosed line) :
    line.getLast? = some '\n' := by
  rcases isClosed with ⟨body, -, rfl⟩
  simp

theorem IsCut.isClosed_iff {line : Line} (isCut : IsCut line) :
    IsClosed line ↔ line.getLast? = some '\n' := by
  constructor
  · exact fun isClosed => isClosed.getLast?_eq
  · intro last
    rcases isCut with isClosed | isOpen
    · exact isClosed
    · exact absurd (List.mem_of_getLast? last) isOpen.2

theorem feedLines_append_of_closed {line : Line} (isClosed : IsClosed line) (rest : List Char) :
    feedLines (line ++ rest) = line :: feedLines rest := by
  rcases isClosed with ⟨body, free, rfl⟩
  induction body with
  | nil => simp [feedLines]
  | cons character body ih =>
      rw [List.mem_cons, not_or] at free
      rw [List.cons_append, List.cons_append, feedLines, if_neg (Ne.symm free.1), ih free.2]

theorem feedLines_flatten_append {lines : List Line} (closed : ∀ line ∈ lines, IsClosed line)
    (rest : List Char) :
    feedLines (lines.flatten ++ rest) = lines ++ feedLines rest := by
  induction lines with
  | nil => rfl
  | cons line lines ih =>
      rcases List.forall_mem_cons.mp closed with ⟨isClosed, othersClosed⟩
      rw [List.flatten_cons, List.append_assoc, feedLines_append_of_closed isClosed,
        ih othersClosed, List.cons_append]

/-- An open line goes on with the first line of what follows. -/
theorem feedLines_append_of_open {line : Line} (isOpen : IsOpen line) (rest : List Char) :
    feedLines (line ++ rest) =
      (line ++ (feedLines rest).headD []) :: (feedLines rest).tail := by
  rcases isOpen with ⟨some, free⟩
  induction line with
  | nil => contradiction
  | cons character line ih =>
      rw [List.mem_cons, not_or] at free
      rw [List.cons_append, feedLines, if_neg (Ne.symm free.1)]
      cases line with
      | nil =>
          rw [List.nil_append]
          cases feedLines rest with
          | nil => rfl
          | cons first others => rfl
      | cons second line =>
          rw [ih (by simp) free.2]
          rfl

/-- All lines but the last are closed. -/
theorem isClosed_of_mem_dropLast {text : List Char} {line : Line}
    (member : line ∈ (feedLines text).dropLast) :
    IsClosed line := by
  induction text generalizing line with
  | nil => contradiction
  | cons character rest ih =>
      rw [feedLines] at member
      split at member
      · rename_i feed
        cases others : feedLines rest with
        | nil => simp [others] at member
        | cons first lines =>
            rw [others, List.dropLast_cons_of_ne_nil (List.cons_ne_nil _ _)] at member
            rcases List.mem_cons.mp member with rfl | later
            · exact ⟨[], List.not_mem_nil, by simp [feed]⟩
            · exact ih (by rwa [others])
      · rename_i other
        split at member
        · contradiction
        · rename_i first lines cut
          cases lines with
          | nil => contradiction
          | cons second lines =>
              rw [List.dropLast_cons_of_ne_nil (List.cons_ne_nil _ _)] at member
              rw [cut, List.dropLast_cons_of_ne_nil (List.cons_ne_nil _ _)] at ih
              rcases List.mem_cons.mp member with rfl | later
              · exact (ih List.mem_cons_self).cons other
              · exact ih (List.mem_cons_of_mem first later)

/-- Lines of which all but the last are closed are found again in their text. -/
theorem feedLines_flatten {lines : List Line}
    (cut : ∀ line ∈ lines, IsCut line)
    (closed : ∀ line ∈ lines.dropLast, IsClosed line) :
    feedLines lines.flatten = lines := by
  induction lines with
  | nil => rfl
  | cons line rest ih =>
      rcases List.forall_mem_cons.mp cut with ⟨lineCut, restCut⟩
      cases rest with
      | nil =>
          rcases lineCut with isClosed | isOpen
          · simpa [feedLines] using feedLines_append_of_closed isClosed []
          · simpa [feedLines] using feedLines_append_of_open isOpen []
      | cons second others =>
          rw [List.dropLast_cons_of_ne_nil (List.cons_ne_nil _ _)] at closed
          rcases List.forall_mem_cons.mp closed with ⟨isClosed, restClosed⟩
          rw [List.flatten_cons, feedLines_append_of_closed isClosed, ih restCut restClosed]

theorem forall_mem_dropLast_cons {holds : Line → Prop} {line : Line} {rest : List Line}
    (first : holds line) (others : ∀ other ∈ rest.dropLast, holds other) :
    ∀ other ∈ (line :: rest).dropLast, holds other := by
  cases rest with
  | nil => exact List.forall_mem_nil _
  | cons second rest => exact List.forall_mem_cons.mpr ⟨first, others⟩

/--
The lines of a text that is put together from lines: each begins with one of them, and these are
taken in order.  If none is left out, then all but the last are closed.
-/
theorem exists_starts {lines : List Line} (cut : ∀ line ∈ lines, IsCut line) :
    ∃ starts, List.Sublist starts lines ∧ List.Forall₂ (· <+: ·) starts (feedLines lines.flatten) ∧
      (starts.length = lines.length → ∀ line ∈ lines.dropLast, IsClosed line) := by
  induction lines with
  | nil => exact ⟨[], List.Sublist.refl [], .nil, fun _ => List.forall_mem_nil _⟩
  | cons line rest ih =>
      rcases List.forall_mem_cons.mp cut with ⟨lineCut, restCut⟩
      rcases ih restCut with ⟨starts, among, begin, complete⟩
      rw [List.flatten_cons]
      rcases lineCut with isClosed | isOpen
      · rw [feedLines_append_of_closed isClosed]
        refine ⟨line :: starts, among.cons_cons line, .cons (List.prefix_refl line) begin, ?_⟩
        intro size
        exact forall_mem_dropLast_cons isClosed (complete (Nat.succ.inj size))
      · have beginOthers : List.Forall₂ (· <+: ·) starts.tail (feedLines rest.flatten).tail := by
          simpa using List.forall₂_drop 1 begin
        rw [feedLines_append_of_open isOpen]
        refine ⟨line :: starts.tail, ((List.tail_sublist starts).trans among).cons_cons line,
          .cons (List.prefix_append _ _) beginOthers, ?_⟩
        -- A start is lost here, unless nothing follows.
        intro size
        have fewer := among.length_le
        rw [List.length_cons, List.length_cons, List.length_tail] at size
        have none : rest = [] := by
          rw [← List.length_eq_zero_iff]
          omega
        rw [none]
        exact List.forall_mem_nil _

/-! ## Patches -/

/-- A row of a block: a line of both versions, of the old one or of the new one. -/
inductive Row where
  | keep (line : Line)
  | remove (line : Line)
  | add (line : Line)
  deriving DecidableEq, Repr

namespace Row

/-- The lines of a row in the old version. -/
def before : Row → List Line
  | .keep line => [line]
  | .remove line => [line]
  | .add _ => []

/-- The lines of a row in the new version. -/
def after : Row → List Line
  | .keep line => [line]
  | .remove _ => []
  | .add line => [line]

/-- A row as it is printed, with its mark. -/
def text : Row → Line
  | .keep line => ' ' :: line
  | .remove line => '-' :: line
  | .add line => '+' :: line

/-- The row that is printed as a line. -/
def ofText? : Line → Option Row
  | ' ' :: line => some (.keep line)
  | '-' :: line => some (.remove line)
  | '+' :: line => some (.add line)
  | _ => none

@[simp]
theorem ofText?_text (row : Row) : ofText? row.text = some row := by
  cases row <;> rfl

/-- Every row gives a line of some version. -/
theorem size_pos (row : Row) : 0 < row.before.length + row.after.length := by
  cases row <;> simp [before, after]

end Row

/-- The place of lines in a version, as a heading gives it: a line number and how many lines. -/
structure Extent where
  number : Nat
  size : Nat
  deriving DecidableEq, Repr

/-- How many lines come before; without any lines the number is that of the line before. -/
def Extent.linesBefore (extent : Extent) : Nat :=
  if extent.size = 0 then extent.number else extent.number - 1

/-- A block of a patch. -/
structure Block where
  old : Extent
  new : Extent
  rows : List Row
  deriving DecidableEq, Repr

/-- The lines of the old version that a block shows. -/
def Block.before (block : Block) : List Line :=
  block.rows.flatMap Row.before

/-- The lines of the new version that a block shows. -/
def Block.after (block : Block) : List Line :=
  block.rows.flatMap Row.after

/--
Applies blocks to the lines that remain of the old version, of which `old` have been passed and
have given `new` lines of the new one.
-/
def applyFrom (old new : Nat) (lines : List Line) : List Block → Option (List Line)
  | [] => some lines
  | block :: blocks =>
    let gap := lines.take (block.old.linesBefore - old)
    let rest := lines.drop (block.old.linesBefore - old)
    if old + gap.length = block.old.linesBefore ∧ new + gap.length = block.new.linesBefore ∧
        block.before <+: rest then
      (applyFrom (block.old.linesBefore + block.before.length)
          (block.new.linesBefore + block.after.length) (rest.drop block.before.length) blocks).map
        (gap ++ block.after ++ ·)
    else
      none

/-! ## Reading -/

/-- A number in decimal digits. -/
def readNumber? (digits : List Char) : Option Nat :=
  if digits ≠ [] ∧ digits.all Char.isDigit then some (Nat.ofDigitChars 10 digits 0) else none

/-- The place of lines in a version, where a single line needs no number. -/
def readExtent? (text : List Char) : Option Extent :=
  match splitAt ',' text with
  | [number] => (readNumber? number).map (⟨·, 1⟩)
  | [number, size] =>
    (readNumber? number).bind fun number => (readNumber? size).map (⟨number, ·⟩)
  | _ => none

/-- The heading of a block. -/
def readHeading? (line : Line) : Option (Extent × Extent) :=
  match splitAt ' ' line with
  | [['@', '@'], '-' :: old, '+' :: new, ['@', '@', '\n']] =>
    (readExtent? old).bind fun old => (readExtent? new).map (old, ·)
  | _ => none

/--
Reads the rows of a block of which `old` and `new` lines are missing in the versions, and then
the blocks behind it.
-/
def readFrom (old new : Nat) : List Line → Option (List Row × List Block)
  | [] => if old = 0 ∧ new = 0 then some ([], []) else none
  | line :: rest =>
    if old = 0 ∧ new = 0 then
      (readHeading? line).bind fun extents =>
        (readFrom extents.1.size extents.2.size rest).map fun read =>
          ([], ⟨extents.1, extents.2, read.1⟩ :: read.2)
    else
      (Row.ofText? line).bind fun row =>
        if row.before.length ≤ old ∧ row.after.length ≤ new then
          (readFrom (old - row.before.length) (new - row.after.length) rest).map fun read =>
            (row :: read.1, read.2)
        else
          none

/-- The blocks of a printed difference. -/
def readBlocks? (lines : List Line) : Option (List Block) :=
  (readFrom 0 0 lines).map Prod.snd

/-- The patch that a text is. -/
def readPatch? (text : List Char) : Option (List Block) :=
  match feedLines text with
  | oldName :: newName :: rest =>
    if "--- ".toList <+: oldName ∧ "+++ ".toList <+: newName then readBlocks? rest else none
  | _ => none

/-- What applying a printed difference to a text gives. -/
def patched? (difference before : String) : Option String :=
  (readPatch? difference.toList).bind fun blocks =>
    (applyFrom 0 0 (feedLines before.toList) blocks).map fun lines => String.ofList lines.flatten

end CasingLint.Diff
