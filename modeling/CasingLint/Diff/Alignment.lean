/-!
# Aligning two lists of lines

Two versions of a text are aligned by matching runs of equal lines.  The longest
run is matched first, of equally long ones the earliest in the old version and then
the earliest in the new one; then the lines before it and those after it are aligned
in the same way.

A line that is very common in a long new version is no anchor: a run is found
without it and only then grown over it at either end.

The result is a list of pieces, whose old sides make up the old version and whose
new sides make up the new one.
-/

namespace CasingLint.Diff

/-- A line with its line end. -/
abbrev Line := List Char

/--
A run of lines present in both versions, or lines of the old version replaced by
lines of the new one.
-/
inductive Piece where
  | same (lines : List Line)
  | change (removed added : List Line)
  deriving DecidableEq, Repr

/-- The lines of a piece in the old version. -/
def Piece.before : Piece → List Line
  | .same lines => lines
  | .change removed _ => removed

/-- The lines of a piece in the new version. -/
def Piece.after : Piece → List Line
  | .same lines => lines
  | .change _ added => added

/-- The lines that are too common in a version to be anchors; a short version has none. -/
def popularLines (lines : List Line) : List Line :=
  if lines.length < 200 then []
  else (lines.filter fun line => decide (lines.length / 100 + 1 < lines.count line)).eraseDups

/-- A matching run: how many lines come before it in either version, and its size. -/
structure Run where
  before : Nat
  after : Nat
  size : Nat
  deriving DecidableEq, Repr

/-- For one old line, the size of the anchored run that ends at each new line. -/
def runRow (anchors : Line → Bool) (line : Line) (new : List Line) (previous : List Nat) :
    List Nat :=
  List.zipWith (fun other size => if other = line ∧ anchors other then size + 1 else 0)
    new (0 :: previous)

/-- The better of a run and the first longest run that ends at the given old line. -/
def improve (best : Run) (oldEnd : Nat) (newEnd : Nat) : List Nat → Run
  | [] => best
  | size :: row =>
    let better :=
      if best.size < size then ⟨oldEnd - size, newEnd - size, size⟩ else best
    improve better oldEnd (newEnd + 1) row

/-- The longest anchored run, given the row of the line before and the number of lines before. -/
def longestAnchored (anchors : Line → Bool) (new : List Line) (best : Run) (previous : List Nat)
    (count : Nat) : List Line → Run
  | [] => best
  | line :: old =>
    let row := runRow anchors line new previous
    longestAnchored anchors new (improve best (count + 1) 1 row) row (count + 1) old

/-- How many lines two lists have in common at their front. -/
def commonFront : List Line → List Line → Nat
  | left :: lefts, right :: rights => if left = right then commonFront lefts rights + 1 else 0
  | _, _ => 0

/-- A run grown over equal lines at either end. -/
def grow (old new : List Line) (run : Run) : Run :=
  let front := commonFront (old.take run.before).reverse (new.take run.after).reverse
  let back := commonFront (old.drop (run.before + run.size)) (new.drop (run.after + run.size))
  ⟨run.before - front, run.after - front, front + run.size + back⟩

/-- The run that is matched first. -/
def longestRun (anchors : Line → Bool) (old new : List Line) : Run :=
  grow old new
    (longestAnchored anchors new ⟨0, 0, 0⟩ (new.map fun _ => 0) 0 old)

/-- The piece for lines that have nothing in common, if there are any. -/
def changed (old new : List Line) : List Piece :=
  if old.isEmpty ∧ new.isEmpty then [] else [.change old new]

/--
Aligns two versions.  A run counts only if it really stands in both of them, which
makes the alignment right whatever the search does; `fuel` bounds the number of
nested searches.
-/
def alignWithin (anchors : Line → Bool) (fuel : Nat) (old new : List Line) : List Piece :=
  match fuel with
  | 0 => changed old new
  | fuel + 1 =>
    let run := longestRun anchors old new
    let lines := (old.drop run.before).take run.size
    if lines ≠ [] ∧ lines = (new.drop run.after).take run.size then
      alignWithin anchors fuel (old.take run.before) (new.take run.after) ++
        .same lines ::
          alignWithin anchors fuel (old.drop (run.before + run.size))
            (new.drop (run.after + run.size))
    else
      changed old new

/-- The alignment of two versions. -/
def align (old new : List Line) : List Piece :=
  let popular := popularLines new
  alignWithin (fun line => !popular.contains line) (old.length + 1) old new

theorem before_changed (old new : List Line) :
    (changed old new).flatMap Piece.before = old := by
  unfold changed
  split
  · simp_all
  · simp [Piece.before]

theorem after_changed (old new : List Line) :
    (changed old new).flatMap Piece.after = new := by
  unfold changed
  split
  · simp_all
  · simp [Piece.after]

theorem before_alignWithin (anchors : Line → Bool) (fuel : Nat) (old new : List Line) :
    (alignWithin anchors fuel old new).flatMap Piece.before = old := by
  induction fuel generalizing old new with
  | zero => exact before_changed old new
  | succ fuel earlier =>
    simp only [alignWithin]
    split
    · simp only [List.flatMap_append, List.flatMap_cons, earlier, Piece.before]
      rw [← List.drop_drop, List.take_append_drop, List.take_append_drop]
    · exact before_changed old new

theorem after_alignWithin (anchors : Line → Bool) (fuel : Nat) (old new : List Line) :
    (alignWithin anchors fuel old new).flatMap Piece.after = new := by
  induction fuel generalizing old new with
  | zero => exact after_changed old new
  | succ fuel earlier =>
    simp only [alignWithin]
    split
    · next matched =>
      simp only [List.flatMap_append, List.flatMap_cons, earlier, Piece.after]
      rw [matched.2, ← List.drop_drop, List.take_append_drop, List.take_append_drop]
    · exact after_changed old new

/-- The old sides of an alignment make up the old version. -/
@[simp]
theorem before_align (old new : List Line) :
    (align old new).flatMap Piece.before = old :=
  before_alignWithin _ _ old new

/-- The new sides of an alignment make up the new version. -/
@[simp]
theorem after_align (old new : List Line) :
    (align old new).flatMap Piece.after = new :=
  after_alignWithin _ _ old new

end CasingLint.Diff
