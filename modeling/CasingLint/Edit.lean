import CasingLint.Text.Utf8

/-!
# Edits

An edit replaces a span of octets.  A list of edits is applied at once: all spans
refer to the content before any change.  The edits must lie inside the content
and must not overlap; spans that touch, and several insertions at one place, are
in order.  Cutting inside a character can leave octets that are no text.
-/

namespace CasingLint

open CasingLint.Text

/-- Replaces the octets from `start` up to `stop`. -/
structure Edit where
  start : Int
  stop : Int
  replacement : String
  deriving DecidableEq, Repr

namespace Edit

/-- Why edits cannot be applied. -/
inductive Fault where
  | outside (start stop : Int)
  | overlap (start stop : Int)
  | undecodable (fault : Utf8.Fault)
  deriving DecidableEq, Repr

/-- The message for edits that cannot be applied. -/
def Fault.message : Fault → String
  | .outside start stop =>
    "Edit " ++ toString start ++ "-" ++ toString stop ++ " is outside the content"
  | .overlap start stop =>
    "Edit " ++ toString start ++ "-" ++ toString stop ++ " overlaps a previous edit"
  | .undecodable fault => fault.message

/-- The order of edits by start, then by end. -/
def le (left right : Edit) : Bool :=
  decide (left.start < right.start) ||
    (decide (left.start = right.start) && decide (left.stop ≤ right.stop))

/-- The edits from front to back; those with equal spans keep their order. -/
def ordered (edits : List Edit) : List Edit :=
  edits.mergeSort le

/-- Checks edits from front to back, given the content's size and the end of the last one. -/
def check (size : Nat) (previousEnd : Int) : List Edit → Except Fault Unit
  | [] => .ok ()
  | edit :: rest =>
    if edit.start < 0 ∨ (size : Int) < edit.stop ∨ edit.stop < edit.start then
      .error (.outside edit.start edit.stop)
    else if edit.start < previousEnd then
      .error (.overlap edit.start edit.stop)
    else
      check size edit.stop rest

/-- The content with one span replaced. -/
def splice (content : Utf8.Octets) (edit : Edit) : Utf8.Octets :=
  content.take edit.start.toNat ++ Utf8.encode edit.replacement.toList ++
    content.drop edit.stop.toNat

/-- The content with all spans replaced, the last one first. -/
def spliceAll (content : Utf8.Octets) (edits : List Edit) : Utf8.Octets :=
  edits.foldr (fun edit changed => splice changed edit) content

/-- The content with the edits applied. -/
def applyAll (content : String) (edits : List Edit) : Except Fault String := do
  let octets := Utf8.encode content.toList
  let sorted := ordered edits
  check octets.length 0 sorted
  match Utf8.decode (spliceAll octets sorted) with
  | .ok text => return String.ofList text
  | .error fault => throw (.undecodable fault)

end Edit

end CasingLint
