import CasingLint.Proofs.Edit.Order

/-!
# Edits replace their spans at once

The splices are made one after the other, from the back to the front, each at the offsets
that its edit had before any change.  This module says what comes out without such an order:
the parts of the content between the spans, with the replacements between them.

The same can be said of the characters of a text instead of its octets.  If all edits begin
and end between characters, then encoding goes piece by piece from the one form to the other,
so the octets that the edits leave are a text again, and it is the one that replacing the
characters gives.
-/

namespace CasingLint.Edit

open CasingLint.Text

/-! ## Replacing stretches of a list -/

/-- A stretch of a list, from `start` up to `stop`, and what takes its place. -/
structure Patch (Item : Type) where
  start : Nat
  stop : Nat
  items : List Item

/--
A list from a position on, with stretches of it replaced at once: what stands before the
first one, between two of them and after the last one is kept.
-/
def weave {Item : Type} (content : List Item) (position : Nat) : List (Patch Item) → List Item
  | [] => content.drop position
  | patch :: rest =>
    content.extract position patch.start ++ patch.items ++ weave content patch.stop rest

/-- An edit as a stretch of octets. -/
def onOctets (edit : Edit) : Patch UInt8 :=
  ⟨edit.start.toNat, edit.stop.toNat, Utf8.encode edit.replacement.toList⟩

/-- An edit as a stretch of the characters of a text. -/
def onCharacters (text : List Char) (edit : Edit) : Patch Char :=
  ⟨Utf8.characterIndex text edit.start.toNat, Utf8.characterIndex text edit.stop.toNat,
    edit.replacement.toList⟩

/-! ## Octets -/

theorem Rewrites.weave_eq {position : Nat} {content result : Utf8.Octets} {edits : List Edit}
    (rewritten : Rewrites position content edits result)
    (front : Utf8.Octets) (size : front.length = position) :
    weave (front ++ content) position (edits.map onOctets) = result := by
  induction rewritten generalizing front with
  | done position content =>
      subst size
      exact List.drop_left
  | @step position edit edits gap span content result starts stops rest ih =>
      have startSize : edit.start.toNat = position + gap.length := by
        omega
      have stopSize : edit.stop.toNat = position + gap.length + span.length := by
        omega
      have kept : (front ++ (gap ++ (span ++ content))).extract position (position + gap.length) =
          gap := by
        subst size
        simp [List.extract_eq_take_drop]
      have later := ih (front ++ (gap ++ span)) (by simp only [List.length_append]; omega)
      rw [List.append_assoc, List.append_assoc] at later
      rw [List.map_cons, weave, onOctets, startSize, stopSize, kept, later, List.append_assoc]

/-- Splices from the back to the front replace the spans at once. -/
theorem spliceAll_eq_weave {content : Utf8.Octets} {edits : List Edit}
    (passed : check content.length 0 edits = .ok ()) :
    spliceAll content edits = weave content 0 (edits.map onOctets) := by
  rcases rewrites_spliceAll [] content passed with ⟨result, spliced, rewritten⟩
  have woven := rewritten.weave_eq [] rfl
  rw [List.nil_append, List.nil_append] at spliced
  rw [spliced]
  exact woven.symm

/-! ## Characters -/

/-- Replacing characters and encoding them is replacing octets. -/
theorem encode_weave {text : List Char} {edits : List Edit} {position : Nat}
    (boundary : position ∈ Utf8.boundaries text)
    (passed : check (Utf8.encode text).length position edits = .ok ())
    (onBoundary : ∀ edit ∈ edits,
      edit.start.toNat ∈ Utf8.boundaries text ∧ edit.stop.toNat ∈ Utf8.boundaries text) :
    Utf8.encode
        (weave text (Utf8.characterIndex text position) (edits.map (onCharacters text))) =
      weave (Utf8.encode text) position (edits.map onOctets) := by
  induction edits generalizing position with
  | nil => exact Utf8.encode_drop_characterIndex boundary
  | cons edit rest ih =>
      rcases List.forall_mem_cons.mp onBoundary with ⟨⟨starts, stops⟩, restBoundary⟩
      rw [check] at passed
      split_ifs at passed with outside overlap
      have stop : ((edit.stop.toNat : Nat) : Int) = edit.stop := by
        omega
      have restWoven := ih stops (by rwa [stop]) restBoundary
      have gap := Utf8.encode_extract_characterIndex boundary starts (by omega)
      simp only [List.map_cons, weave, onCharacters, onOctets, Utf8.encode_append, gap]
      rw [← restWoven]

/-! ## Texts -/

/--
Edits that pass the check, sorted by start and end with ties as they were given, leave the
octets of the content with all spans replaced at once, and these octets are then read.  If
every edit begins and ends between characters, they can be read, and the result is the
content with the characters of all spans replaced at once.
-/
theorem applyAll_eq_weave {content : String} {edits sorted : List Edit}
    (order : IsStableOrderOf edits sorted)
    (passed : check (Utf8.encode content.toList).length 0 sorted = .ok ()) :
    spliceAll (Utf8.encode content.toList) (ordered edits) =
        weave (Utf8.encode content.toList) 0 (sorted.map onOctets) ∧
      applyAll content edits =
        readBack (weave (Utf8.encode content.toList) 0 (sorted.map onOctets)) ∧
      ((∀ edit ∈ edits,
          edit.start.toNat ∈ Utf8.boundaries content.toList ∧
            edit.stop.toNat ∈ Utf8.boundaries content.toList) →
        applyAll content edits =
          .ok (String.ofList
            (weave content.toList 0 (sorted.map (onCharacters content.toList))))) := by
  have woven := spliceAll_eq_weave passed
  have applied :
      applyAll content edits =
        readBack (weave (Utf8.encode content.toList) 0 (sorted.map onOctets)) := by
    rw [applyAll_eq_bind, ← order.eq_ordered, passed, ← woven]
    rfl
  refine ⟨?_, applied, ?_⟩
  · rw [← order.eq_ordered]
    exact woven
  · intro onBoundary
    have start : 0 ∈ Utf8.boundaries content.toList :=
      Utf8.mem_boundaries_iff.mpr ⟨[], content.toList, rfl, rfl⟩
    have encoded := encode_weave start passed fun edit member =>
      onBoundary edit (order.perm.mem_iff.mp member)
    rw [Utf8.characterIndex_zero] at encoded
    rw [applied, ← encoded]
    exact readBack_encode _

/-- A deletion, a letter of two octets that touches it, and two insertions at one place. -/
theorem applyAll_eq_weave_sample :
    IsStableOrderOf [⟨3, 3, "?"⟩, ⟨1, 3, "xyz"⟩, ⟨3, 3, "!"⟩, ⟨0, 1, ""⟩]
        [⟨0, 1, ""⟩, ⟨1, 3, "xyz"⟩, ⟨3, 3, "?"⟩, ⟨3, 3, "!"⟩] ∧
      check (Utf8.encode "aéb".toList).length 0
        [⟨0, 1, ""⟩, ⟨1, 3, "xyz"⟩, ⟨3, 3, "?"⟩, ⟨3, 3, "!"⟩] = .ok () ∧
      applyAll "aéb" [⟨3, 3, "?"⟩, ⟨1, 3, "xyz"⟩, ⟨3, 3, "!"⟩, ⟨0, 1, ""⟩] = .ok "xyz?!b" :=
  have order : IsStableOrderOf [⟨3, 3, "?"⟩, ⟨1, 3, "xyz"⟩, ⟨3, 3, "!"⟩, ⟨0, 1, ""⟩]
      [⟨0, 1, ""⟩, ⟨1, 3, "xyz"⟩, ⟨3, 3, "?"⟩, ⟨3, 3, "!"⟩] :=
    ⟨by decide, by decide, by decide⟩
  ⟨order, rfl, (applyAll_eq_weave order rfl).2.2 (by decide)⟩

end CasingLint.Edit
