import CasingLint.Edit
import CasingLint.Proofs.Text.Utf8
import Mathlib.Tactic.SplitIfs

/-!
# What applying edits does

Edits that pass the check replace their spans and nothing else.  `Rewrites` says this
without reference to the order of the splices: the content falls into gaps and spans,
and the result has the same gaps with the replacements between them.

The second half follows places through such a rewriting.  An offset moves by the total
growth of the edits that end at or before it; a stretch that no edit touches is found
again at its moved place, and the moved span of an edit holds its replacement.
-/

namespace CasingLint.Edit

open CasingLint.Text

/-! ## The check -/

/-- Does the edit lie inside content of the given size? -/
def IsInside (size : Nat) (edit : Edit) : Prop :=
  0 ≤ edit.start ∧ edit.start ≤ edit.stop ∧ edit.stop ≤ size

/-- The check passes exactly for edits inside the content, each after the one before. -/
theorem check_eq_ok_iff {size : Nat} {previousEnd : Int} {edits : List Edit} :
    check size previousEnd edits = .ok () ↔
      (∀ edit ∈ edits, previousEnd ≤ edit.start ∧ edit.IsInside size) ∧
        edits.Pairwise fun left right => left.stop ≤ right.start := by
  induction edits generalizing previousEnd with
  | nil => simp [check]
  | cons edit rest ih =>
      rw [check]
      split_ifs with outside overlap
      · have notInside : ¬ edit.IsInside size := by
          simp only [IsInside]
          omega
        simp [notInside]
      · have notAfter : ¬ previousEnd ≤ edit.start := by
          omega
        simp [notAfter]
      · rw [ih, List.forall_mem_cons, List.pairwise_cons]
        constructor
        · rintro ⟨later, ordered⟩
          refine ⟨⟨⟨by omega, by omega, by omega, by omega⟩, ?_⟩, ?_, ordered⟩
          · intro other member
            have after := (later other member).1
            exact ⟨by omega, (later other member).2⟩
          · intro other member
            exact (later other member).1
        · rintro ⟨⟨-, inside⟩, after, ordered⟩
          exact ⟨fun other member => ⟨after other member, (inside other member).2⟩, ordered⟩

/-! ## Rewriting -/

/--
Content that begins at a position is rewritten by edits, front to back: gaps stay as they
are and each span gives way to its replacement.
-/
inductive Rewrites : Nat → Utf8.Octets → List Edit → Utf8.Octets → Prop where
  | done (position : Nat) (content : Utf8.Octets) :
      Rewrites position content [] content
  | step
      {position : Nat} {edit : Edit} {edits : List Edit}
      {gap span content result : Utf8.Octets}
      (starts : edit.start = ((position + gap.length : Nat) : Int))
      (stops : edit.stop = ((position + gap.length + span.length : Nat) : Int))
      (rest : Rewrites (position + gap.length + span.length) content edits result) :
      Rewrites position (gap ++ (span ++ content)) (edit :: edits)
        (gap ++ (Utf8.encode edit.replacement.toList ++ result))

/-- Content that an edit fits into falls into a gap, the span of the edit and a tail. -/
theorem exists_gap_span {position : Nat} {edit : Edit} {content : Utf8.Octets}
    (after : (position : Int) ≤ edit.start) (forward : edit.start ≤ edit.stop)
    (within : edit.stop ≤ ((position + content.length : Nat) : Int)) :
    ∃ gap span tail,
      content = gap ++ (span ++ tail) ∧
        edit.start = ((position + gap.length : Nat) : Int) ∧
        edit.stop = ((position + gap.length + span.length : Nat) : Int) := by
  refine ⟨content.take (edit.start.toNat - position),
    (content.drop (edit.start.toNat - position)).take (edit.stop.toNat - edit.start.toNat),
    (content.drop (edit.start.toNat - position)).drop (edit.stop.toNat - edit.start.toNat),
    ?_, ?_, ?_⟩
  · rw [List.take_append_drop, List.take_append_drop]
  · simp only [List.length_take]
    omega
  · simp only [List.length_take, List.length_drop]
    omega

/-- Splicing edits that pass the check leaves the front alone and rewrites what follows. -/
theorem rewrites_spliceAll {edits : List Edit} (front content : Utf8.Octets)
    (passed : check (front ++ content).length front.length edits = .ok ()) :
    ∃ result,
      spliceAll (front ++ content) edits = front ++ result ∧
        Rewrites front.length content edits result := by
  induction edits generalizing front content with
  | nil => exact ⟨content, rfl, .done front.length content⟩
  | cons edit rest ih =>
      rcases check_eq_ok_iff.mp passed with ⟨inside, ordered⟩
      rcases List.forall_mem_cons.mp inside with ⟨⟨after, -, forward, within⟩, restInside⟩
      rcases List.pairwise_cons.mp ordered with ⟨restAfter, restOrdered⟩
      rw [List.length_append] at within
      rcases exists_gap_span after forward (by omega) with
        ⟨gap, span, tail, rfl, starts, stops⟩
      have restPassed :
          check (front ++ gap ++ span ++ tail).length ((front ++ gap ++ span).length : Nat)
            rest = .ok () := by
        refine check_eq_ok_iff.mpr ⟨?_, restOrdered⟩
        intro other member
        have later := restAfter other member
        have fits := (restInside other member).2
        simp only [IsInside, List.length_append] at fits ⊢
        omega
      rcases ih _ _ restPassed with ⟨result, spliced, rewritten⟩
      refine ⟨gap ++ (Utf8.encode edit.replacement.toList ++ result), ?_, ?_⟩
      · have startSize : edit.start.toNat = (front ++ gap).length := by
          simp only [List.length_append]
          omega
        have stopSize : edit.stop.toNat = (front ++ gap ++ span).length := by
          simp only [List.length_append]
          omega
        have inner : spliceAll (front ++ (gap ++ (span ++ tail))) rest =
            front ++ gap ++ (span ++ result) := by
          simpa using spliced
        calc
          spliceAll (front ++ (gap ++ (span ++ tail))) (edit :: rest) =
              splice (front ++ gap ++ (span ++ result)) edit := by
            rw [← inner]
            rfl
          _ = front ++ gap ++ Utf8.encode edit.replacement.toList ++ result := by
            rw [splice, startSize, stopSize, List.take_left, ← List.append_assoc, List.drop_left]
          _ = front ++ (gap ++ (Utf8.encode edit.replacement.toList ++ result)) := by
            simp
      · apply Rewrites.step starts stops
        simpa [List.length_append, Nat.add_assoc] using rewritten

theorem Rewrites.position_le {position : Nat} {content result : Utf8.Octets} {edits : List Edit}
    (rewritten : Rewrites position content edits result) :
    ∀ edit ∈ edits, (position : Int) ≤ edit.start := by
  induction rewritten with
  | done => simp
  | step starts stops rest ih =>
      intro other member
      rcases List.mem_cons.mp member with rfl | later
      · omega
      · have after := ih other later
        omega

theorem Rewrites.start_le_stop {position : Nat} {content result : Utf8.Octets}
    {edits : List Edit}
    (rewritten : Rewrites position content edits result) :
    ∀ edit ∈ edits, edit.start ≤ edit.stop := by
  induction rewritten with
  | done => simp
  | step starts stops rest ih =>
      intro other member
      rcases List.mem_cons.mp member with rfl | later
      · omega
      · exact ih other later

/-- Every octet of the result was there before or comes from a replacement. -/
theorem Rewrites.mem_result {position : Nat} {content result : Utf8.Octets} {edits : List Edit}
    (rewritten : Rewrites position content edits result) {octet : UInt8} (member : octet ∈ result) :
    octet ∈ content ∨ ∃ edit ∈ edits, octet ∈ Utf8.encode edit.replacement.toList := by
  induction rewritten with
  | done => exact Or.inl member
  | @step position edit edits gap span content result starts stops rest ih =>
      rw [List.mem_append, List.mem_append] at member
      rcases member with inGap | inReplacement | inRest
      · exact Or.inl (List.mem_append_left _ inGap)
      · exact Or.inr ⟨edit, List.mem_cons_self, inReplacement⟩
      · rcases ih inRest with kept | ⟨other, among, replaced⟩
        · exact Or.inl (List.mem_append_right _ (List.mem_append_right _ kept))
        · exact Or.inr ⟨other, List.mem_cons_of_mem edit among, replaced⟩

/-- Rewriting a text between its characters gives a text. -/
theorem Rewrites.exists_text {position : Nat} {text : List Char} {result : Utf8.Octets}
    {edits : List Edit}
    (rewritten : Rewrites position (Utf8.encode text) edits result)
    (onBoundary : ∀ edit ∈ edits,
      edit.start.toNat - position ∈ Utf8.boundaries text ∧
        edit.stop.toNat - position ∈ Utf8.boundaries text) :
    ∃ changed, result = Utf8.encode changed := by
  generalize encoded : Utf8.encode text = content at rewritten
  induction rewritten generalizing text with
  | done position content => exact ⟨text, encoded.symm⟩
  | @step position edit edits gap span content result starts stops rest ih =>
      rcases List.forall_mem_cons.mp onBoundary with ⟨⟨startBoundary, stopBoundary⟩, restBoundary⟩
      have startOffset : edit.start.toNat - position = gap.length := by
        omega
      have stopOffset : edit.stop.toNat - position = gap.length + span.length := by
        omega
      rw [startOffset] at startBoundary
      rw [stopOffset] at stopBoundary
      rcases Utf8.exists_encode_of_append encoded startBoundary with
        ⟨before, after, rfl, rfl, afterEncoded⟩
      have spanBoundary : span.length ∈ Utf8.boundaries after := by
        simpa using Utf8.mem_boundaries_append stopBoundary (Nat.le_add_right _ _)
      rcases Utf8.exists_encode_of_append afterEncoded spanBoundary with ⟨name, tail, rfl, rfl, rfl⟩
      -- What stands before the rest of the edits is a part of the text of its own.
      have restOnBoundary : ∀ other ∈ edits,
          other.start.toNat - (position + (Utf8.encode before).length + (Utf8.encode name).length) ∈
              Utf8.boundaries tail ∧
            other.stop.toNat - (position + (Utf8.encode before).length + (Utf8.encode name).length) ∈
              Utf8.boundaries tail := by
        intro other member
        have later := rest.position_le other member
        have forward := rest.start_le_stop other member
        rcases restBoundary other member with ⟨otherStart, otherStop⟩
        have size : (Utf8.encode (before ++ name)).length =
            (Utf8.encode before).length + (Utf8.encode name).length := by
          simp
        rw [← List.append_assoc] at otherStart otherStop
        constructor
        · have inTail := Utf8.mem_boundaries_append otherStart (by omega)
          rwa [size, Nat.sub_sub, ← Nat.add_assoc] at inTail
        · have inTail := Utf8.mem_boundaries_append otherStop (by omega)
          rwa [size, Nat.sub_sub, ← Nat.add_assoc] at inTail
      rcases ih restOnBoundary rfl with ⟨changed, rfl⟩
      exact ⟨before ++ (edit.replacement.toList ++ changed), by simp⟩

/-! ## Reading the result -/

/-- The text that octets stand for, or the fault for octets that are no text. -/
def readBack (octets : Utf8.Octets) : Except Fault String :=
  ((Utf8.decode octets).mapError Fault.undecodable).map String.ofList

/-- Applying edits is checking them in order, replacing their spans and reading the result. -/
theorem applyAll_eq_bind (content : String) (edits : List Edit) :
    applyAll content edits =
      (check (Utf8.encode content.toList).length 0 (ordered edits)).bind fun _ =>
        readBack (spliceAll (Utf8.encode content.toList) (ordered edits)) := by
  simp only [applyAll, readBack]
  cases check (Utf8.encode content.toList).length 0 (ordered edits) with
  | error fault => rfl
  | ok _ =>
      cases Utf8.decode (spliceAll (Utf8.encode content.toList) (ordered edits)) with
      | error fault => rfl
      | ok text => rfl

theorem readBack_encode (text : List Char) :
    readBack (Utf8.encode text) = .ok (String.ofList text) := by
  rw [readBack, Utf8.decode_encode]
  rfl

/-! ## Edits in any order -/

/-- Does one of the two edits end before the other begins? -/
def IsApart (left right : Edit) : Prop :=
  left.stop ≤ right.start ∨ right.stop ≤ left.start

theorem IsApart.symm {left right : Edit} (separate : left.IsApart right) :
    right.IsApart left :=
  Or.symm separate

instance : Std.Symm IsApart where
  symm _ _ := IsApart.symm

/-- An edit that replaces at least one octet. -/
def IsProper (edit : Edit) : Prop :=
  0 ≤ edit.start ∧ edit.start < edit.stop

theorem le_iff {left right : Edit} :
    left.le right = true ↔
      left.start < right.start ∨ left.start = right.start ∧ left.stop ≤ right.stop := by
  simp [le]

protected theorem le_refl (edit : Edit) :
    edit.le edit = true :=
  le_iff.mpr (Or.inr ⟨rfl, Int.le_refl edit.stop⟩)

protected theorem le_trans (first second third : Edit) (before : first.le second = true)
    (after : second.le third = true) :
    first.le third = true := by
  rw [le_iff] at before after ⊢
  omega

protected theorem le_total (left right : Edit) :
    (left.le right || right.le left) = true := by
  rw [Bool.or_eq_true, le_iff, le_iff]
  omega

theorem ordered_perm (edits : List Edit) :
    (ordered edits).Perm edits :=
  List.mergeSort_perm edits le

theorem pairwise_le_ordered (edits : List Edit) :
    (ordered edits).Pairwise fun left right => left.le right = true :=
  List.pairwise_mergeSort Edit.le_trans Edit.le_total edits

/-- Edits that are apart from each other follow each other once they are in order. -/
theorem pairwise_ordered {edits : List Edit}
    (separate : edits.Pairwise IsApart) (forward : ∀ edit ∈ edits, edit.start ≤ edit.stop) :
    (ordered edits).Pairwise fun left right => left.stop ≤ right.start := by
  have separateOrdered : (ordered edits).Pairwise IsApart :=
    (ordered_perm edits).symm.pairwise separate IsApart.symm
  refine List.Pairwise.imp_of_mem ?_ (separateOrdered.and (pairwise_le_ordered edits))
  rintro left right leftMember rightMember ⟨before | after, sorted⟩
  · exact before
  · -- Only two insertions at one place can come in either order.
    have rightForward := forward right ((ordered_perm edits).mem_iff.mp rightMember)
    rw [le_iff] at sorted
    omega

/-- Edits pass the check, once they are in order, if they are inside and apart, and only then. -/
theorem check_ordered_eq_ok_iff {size : Nat} {edits : List Edit} :
    check size 0 (ordered edits) = .ok () ↔
      (∀ edit ∈ edits, edit.IsInside size) ∧ edits.Pairwise IsApart := by
  rw [check_eq_ok_iff]
  constructor
  · rintro ⟨inside, following⟩
    constructor
    · intro edit member
      exact (inside edit ((ordered_perm edits).mem_iff.mpr member)).2
    · exact (ordered_perm edits).pairwise (following.imp Or.inl) IsApart.symm
  · rintro ⟨inside, separate⟩
    constructor
    · intro edit member
      have fits := inside edit ((ordered_perm edits).mem_iff.mp member)
      exact ⟨fits.1, fits⟩
    · exact pairwise_ordered separate fun edit member => (inside edit member).2.1

/-- Edits on characters, apart from each other, can be applied, and rewrite the text. -/
theorem applyAll_of_isApart {content : String} {edits : List Edit}
    (separate : edits.Pairwise IsApart) (proper : ∀ edit ∈ edits, edit.IsProper)
    (onBoundary : ∀ edit ∈ edits,
      edit.start.toNat ∈ Utf8.boundaries content.toList ∧
        edit.stop.toNat ∈ Utf8.boundaries content.toList) :
    ∃ result : String,
      applyAll content edits = .ok result ∧
        Rewrites 0 (Utf8.encode content.toList) (ordered edits)
          (Utf8.encode result.toList) := by
  have members {edit : Edit} : edit ∈ ordered edits ↔ edit ∈ edits :=
    (ordered_perm edits).mem_iff
  have passed :
      check (Utf8.encode content.toList).length 0 (ordered edits) = .ok () := by
    refine check_ordered_eq_ok_iff.mpr ⟨?_, separate⟩
    intro edit member
    rcases proper edit member with ⟨nonnegative, nonempty⟩
    have stopInside := Utf8.le_length_of_mem_boundaries (onBoundary edit member).2
    exact ⟨nonnegative, by omega, by omega⟩
  rcases rewrites_spliceAll [] (Utf8.encode content.toList) passed with ⟨octets, spliced, rewritten⟩
  obtain ⟨changed, rfl⟩ := rewritten.exists_text fun edit member => by
    simpa using onBoundary edit (members.mp member)
  refine ⟨String.ofList changed, ?_, by simpa using rewritten⟩
  rw [List.nil_append, List.nil_append] at spliced
  rw [applyAll_eq_bind, passed, spliced]
  exact readBack_encode changed

/-! ## Places after the edits -/

/-- By how many octets an edit makes the content longer. -/
def growth (edit : Edit) : Int :=
  (Utf8.encode edit.replacement.toList).length - (edit.stop - edit.start)

/-- By how many octets the edits that end at or before an offset make the content longer. -/
def growthBefore (offset : Nat) : List Edit → Int
  | [] => 0
  | edit :: rest =>
    if edit.stop ≤ (offset : Int) then edit.growth + growthBefore offset rest
    else growthBefore offset rest

/-- Where an offset of the content is found again after the edits. -/
def moved (edits : List Edit) (offset : Nat) : Nat :=
  ((offset : Int) + growthBefore offset edits).toNat

theorem growthBefore_perm {edits others : List Edit} (same : edits.Perm others) (offset : Nat) :
    growthBefore offset edits = growthBefore offset others := by
  induction same with
  | nil => rfl
  | cons edit _ ih => rw [growthBefore, growthBefore, ih]
  | swap first second rest =>
      simp only [growthBefore]
      split_ifs
      · omega
      · rfl
      · rfl
      · rfl
  | trans _ _ ihLeft ihRight => exact ihLeft.trans ihRight

theorem moved_perm {edits others : List Edit} (same : edits.Perm others) (offset : Nat) :
    moved edits offset = moved others offset := by
  rw [moved, moved, growthBefore_perm same]

theorem growthBefore_cons_of_le {edit : Edit} {offset : Nat} (edits : List Edit)
    (ended : edit.stop ≤ (offset : Int)) :
    growthBefore offset (edit :: edits) = edit.growth + growthBefore offset edits := by
  simp [growthBefore, ended]

theorem growthBefore_eq_zero {edits : List Edit} {offset : Nat}
    (later : ∀ edit ∈ edits, (offset : Int) < edit.stop) :
    growthBefore offset edits = 0 := by
  induction edits with
  | nil => rfl
  | cons edit rest ih =>
      rcases List.forall_mem_cons.mp later with ⟨editLater, restLater⟩
      rw [growthBefore, if_neg (Int.not_le.mpr editLater), ih restLater]

theorem Rewrites.lt_stop {position : Nat} {content result : Utf8.Octets} {edits : List Edit}
    (rewritten : Rewrites position content edits result)
    (proper : ∀ edit ∈ edits, edit.IsProper) :
    ∀ edit ∈ edits, (position : Int) < edit.stop := by
  intro edit member
  have starts := rewritten.position_le edit member
  have nonempty := (proper edit member).2
  omega

theorem slice_inside (front : Utf8.Octets) {index size : Nat} (room : index + size ≤ front.length)
    (back : Utf8.Octets) :
    ((front ++ back).drop index).take size = (front.drop index).take size := by
  rw [List.drop_append_of_le_length (by omega), List.take_append_of_le_length]
  rw [List.length_drop]
  omega

/--
A stretch that no edit touches is found again, unchanged, where the growth before it puts
it.  The index counts from the place of the content's own position.
-/
theorem Rewrites.kept {position : Nat} {content result : Utf8.Octets} {edits : List Edit}
    (rewritten : Rewrites position content edits result)
    (proper : ∀ edit ∈ edits, edit.IsProper)
    {start stop : Nat} (after : position ≤ start) (forward : start ≤ stop)
    (untouched : ∀ edit ∈ edits, edit.stop ≤ (start : Int) ∨ (stop : Int) ≤ edit.start) :
    growthBefore stop edits = growthBefore start edits ∧
      ∃ index : Nat,
        (index : Int) = start - position + growthBefore start edits ∧
          (result.drop index).take (stop - start) =
            (content.drop (start - position)).take (stop - start) := by
  induction rewritten with
  | done position content =>
      refine ⟨rfl, start - position, ?_, rfl⟩
      simp only [growthBefore]
      omega
  | @step position edit edits gap span content result starts stops rest ih =>
      rcases List.forall_mem_cons.mp proper with ⟨editProper, restProper⟩
      rcases List.forall_mem_cons.mp untouched with ⟨editUntouched, restUntouched⟩
      have beyond := rest.lt_stop restProper
      have nonempty := editProper.2
      rcases editUntouched with ended | ahead
      · -- The stretch lies behind this edit, in what the rest of the edits rewrite.
        rcases ih restProper (by omega) restUntouched with ⟨growthEqual, index, place, sameSlice⟩
        rw [growthBefore_cons_of_le edits ended,
          growthBefore_cons_of_le edits (show edit.stop ≤ (stop : Int) by omega), growthEqual]
        refine ⟨rfl,
          gap.length + ((Utf8.encode edit.replacement.toList).length + index), ?_, ?_⟩
        · simp only [growth]
          omega
        · have source : start - position =
              gap.length + (span.length +
                (start - (position + gap.length + span.length))) := by
            omega
          rw [source, List.drop_length_add_append, List.drop_length_add_append,
            List.drop_length_add_append, List.drop_length_add_append]
          exact sameSlice
      · -- The stretch lies in the gap before this edit, and before all others.
        have later : ∀ other ∈ edit :: edits, (stop : Int) < other.stop := by
          intro other member
          rcases List.mem_cons.mp member with rfl | restMember
          · omega
          · have bound := beyond other restMember
            omega
        rw [growthBefore_eq_zero later, growthBefore_eq_zero fun other member => by
          have bound := later other member
          omega]
        refine ⟨rfl, start - position, by omega, ?_⟩
        have room : start - position + (stop - start) ≤ gap.length := by
          omega
        rw [slice_inside gap room, slice_inside gap room]

/-- The span of an edit gives way to the replacement, where the growth before it puts it. -/
theorem Rewrites.replaced {position : Nat} {content result : Utf8.Octets} {edits : List Edit}
    (rewritten : Rewrites position content edits result)
    (proper : ∀ edit ∈ edits, edit.IsProper)
    {edit : Edit} (member : edit ∈ edits) :
    growthBefore edit.stop.toNat edits =
        growthBefore edit.start.toNat edits + edit.growth ∧
      ∃ index : Nat,
        (index : Int) = edit.start - position + growthBefore edit.start.toNat edits ∧
          (result.drop index).take (Utf8.encode edit.replacement.toList).length =
            Utf8.encode edit.replacement.toList := by
  induction rewritten with
  | done => simp at member
  | @step position first edits gap span content result starts stops rest ih =>
      rcases List.forall_mem_cons.mp proper with ⟨firstProper, restProper⟩
      have beyond := rest.lt_stop restProper
      rcases List.mem_cons.mp member with rfl | later
      · -- This edit is the first one: nothing grows before it.
        have nonempty := firstProper.2
        have none : growthBefore edit.start.toNat (edit :: edits) = 0 := by
          apply growthBefore_eq_zero
          intro other otherMember
          rcases List.mem_cons.mp otherMember with rfl | restMember
          · omega
          · have bound := beyond other restMember
            omega
        have noneBehind : growthBefore edit.stop.toNat edits = 0 := by
          apply growthBefore_eq_zero
          intro other restMember
          have bound := beyond other restMember
          omega
        rw [none, growthBefore_cons_of_le edits (by omega), noneBehind]
        refine ⟨by omega, gap.length, by omega, ?_⟩
        rw [List.drop_left, List.take_left]
      · have firstEnded := rest.position_le edit later
        have laterProper := restProper edit later
        have nonempty := laterProper.2
        rcases ih restProper later with ⟨grown, index, place, slice⟩
        rw [growthBefore_cons_of_le edits (show first.stop ≤ (edit.stop.toNat : Int) by omega),
          growthBefore_cons_of_le edits (show first.stop ≤ (edit.start.toNat : Int) by omega),
          grown]
        refine ⟨by omega,
          gap.length + ((Utf8.encode first.replacement.toList).length + index), ?_, ?_⟩
        · simp only [growth]
          omega
        · rw [List.drop_length_add_append, List.drop_length_add_append]
          exact slice

/-! ## The moved places hold what they should -/

/-- The part of some content between two offsets. -/
def slice (content : Utf8.Octets) (start stop : Nat) : Utf8.Octets :=
  (content.drop start).take (stop - start)

theorem Rewrites.slice_moved_of_untouched {content result : Utf8.Octets} {edits : List Edit}
    (rewritten : Rewrites 0 content edits result)
    (proper : ∀ edit ∈ edits, edit.IsProper)
    {start stop : Nat} (forward : start ≤ stop)
    (untouched : ∀ edit ∈ edits, edit.stop ≤ (start : Int) ∨ (stop : Int) ≤ edit.start) :
    slice result (moved edits start) (moved edits stop) = slice content start stop := by
  rcases rewritten.kept proper (Nat.zero_le start) forward untouched with
    ⟨growthEqual, index, place, sameSlice⟩
  have startPlace : moved edits start = index := by
    rw [moved]
    omega
  have size : moved edits stop - moved edits start = stop - start := by
    rw [moved, moved, growthEqual]
    omega
  rw [slice, slice, size, startPlace, sameSlice, Nat.sub_zero]

theorem Rewrites.slice_moved_of_mem {content result : Utf8.Octets} {edits : List Edit}
    (rewritten : Rewrites 0 content edits result)
    (proper : ∀ edit ∈ edits, edit.IsProper)
    {edit : Edit} (member : edit ∈ edits) :
    slice result (moved edits edit.start.toNat) (moved edits edit.stop.toNat) =
      Utf8.encode edit.replacement.toList := by
  rcases rewritten.replaced proper member with ⟨grown, index, place, replacement⟩
  rcases proper edit member with ⟨nonnegative, nonempty⟩
  have startPlace : moved edits edit.start.toNat = index := by
    rw [moved]
    omega
  have size :
      moved edits edit.stop.toNat - moved edits edit.start.toNat =
        (Utf8.encode edit.replacement.toList).length := by
    rw [startPlace, moved, grown, growth]
    omega
  rw [slice, size, startPlace, replacement]

end CasingLint.Edit
