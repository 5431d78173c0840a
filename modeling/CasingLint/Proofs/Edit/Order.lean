import CasingLint.Proofs.Edit.Rewriting
import Mathlib.Data.List.Pairwise
import Mathlib.Tactic.Push

/-!
# The order of edits

Edits may be given in any order.  They are sorted by start, then by end, and those with one
span keep their order; the check then compares each edit with the one before it only.

The first part says what the sorted list is, without reference to how it is found.  The
second part says that the check is complete for all pairs: edits are refused exactly if one
of them leaves the content or two of them meet.  The third part says that the order in
which edits are given does not matter, unless different texts are inserted at one place.
Ties are of two kinds: a span that holds octets cannot be replaced twice, so the edits are
refused in whatever order they come, and insertions at one place are all the same edit.
-/

namespace CasingLint.Edit

open CasingLint.Text

/-! ## The sorted list -/

/-- Where an edit begins and where it ends. -/
def span (edit : Edit) : Int × Int :=
  (edit.start, edit.stop)

/-- Do two edits replace the same span? -/
def sameSpan (left right : Edit) : Bool :=
  left.span == right.span

theorem sameSpan_iff {left right : Edit} :
    left.sameSpan right = true ↔ left.start = right.start ∧ left.stop = right.stop := by
  simp [sameSpan, span]

/--
A list holds the given edits by start, then by end, and edits with one span stand in it as
they were given.
-/
structure IsStableOrderOf (edits sorted : List Edit) : Prop where
  perm : sorted.Perm edits
  inOrder : sorted.Pairwise fun left right =>
    left.start < right.start ∨ left.start = right.start ∧ left.stop ≤ right.stop
  stable : ∀ edit ∈ edits, sorted.filter edit.sameSpan = edits.filter edit.sameSpan

theorem isStableOrderOf_ordered (edits : List Edit) :
    IsStableOrderOf edits (ordered edits) where
  perm := ordered_perm edits
  inOrder := (pairwise_le_ordered edits).imp le_iff.mp
  stable := by
    intro edit _
    -- Edits with one span are in order already, so sorting keeps them as a sublist.
    have tied : (edits.filter edit.sameSpan).Pairwise fun left right => left.le right = true := by
      apply List.pairwise_of_forall_mem_list
      intro left leftMember right rightMember
      have leftSpan := sameSpan_iff.mp (List.mem_filter.mp leftMember).2
      have rightSpan := sameSpan_iff.mp (List.mem_filter.mp rightMember).2
      rw [le_iff]
      omega
    have kept : (edits.filter edit.sameSpan).Sublist (ordered edits) :=
      List.sublist_mergeSort Edit.le_trans Edit.le_total tied List.filter_sublist
    have within := kept.filter edit.sameSpan
    rw [List.filter_filter] at within
    simp only [Bool.and_self] at within
    exact (within.eq_of_length ((ordered_perm edits).filter _).length_eq.symm).symm

/-- What comes first in both of two sorted lists of the same edits has one span. -/
theorem sameSpan_of_perm_cons {first second : Edit} {left right : List Edit}
    (leftOrder : (first :: left).Pairwise fun before after => before.le after = true)
    (rightOrder : (second :: right).Pairwise fun before after => before.le after = true)
    (same : (first :: left).Perm (second :: right)) :
    first.sameSpan second = true := by
  have firstLe : first.le second = true := by
    rcases List.mem_cons.mp (same.mem_iff.mpr List.mem_cons_self) with rfl | later
    · exact Edit.le_refl second
    · exact (List.pairwise_cons.mp leftOrder).1 second later
  have secondLe : second.le first = true := by
    rcases List.mem_cons.mp (same.mem_iff.mp List.mem_cons_self) with rfl | later
    · exact Edit.le_refl first
    · exact (List.pairwise_cons.mp rightOrder).1 first later
  rw [le_iff] at firstLe secondLe
  rw [sameSpan_iff]
  omega

/-- Sorted lists of the same edits are equal if edits with one span stand alike in them. -/
theorem eq_of_filter_sameSpan {left right : List Edit}
    (leftOrder : left.Pairwise fun before after => before.le after = true)
    (rightOrder : right.Pairwise fun before after => before.le after = true)
    (same : left.Perm right)
    (tied : ∀ edit ∈ left, left.filter edit.sameSpan = right.filter edit.sameSpan) :
    left = right := by
  induction left generalizing right with
  | nil => exact same.nil_eq
  | cons first rest ih =>
      cases right with
      | nil => exact same.eq_nil
      | cons second others =>
          have spans := sameSpan_of_perm_cons leftOrder rightOrder same
          have reflexive : first.sameSpan first = true := sameSpan_iff.mpr ⟨rfl, rfl⟩
          have heads := tied first List.mem_cons_self
          rw [List.filter_cons_of_pos reflexive, List.filter_cons_of_pos spans,
            List.cons.injEq] at heads
          rcases heads with ⟨rfl, -⟩
          congr 1
          apply ih (List.pairwise_cons.mp leftOrder).2 (List.pairwise_cons.mp rightOrder).2
            same.cons_inv
          intro edit member
          have whole := tied edit (List.mem_cons_of_mem first member)
          rw [List.filter_cons, List.filter_cons] at whole
          split_ifs at whole
          · exact (List.cons.inj whole).2
          · exact whole

/-- There is only one such list. -/
theorem IsStableOrderOf.eq_ordered {edits sorted : List Edit}
    (order : IsStableOrderOf edits sorted) :
    sorted = ordered edits := by
  apply eq_of_filter_sameSpan (order.inOrder.imp le_iff.mpr) (pairwise_le_ordered edits)
    (order.perm.trans (ordered_perm edits).symm)
  intro edit member
  have given := order.perm.mem_iff.mp member
  exact (order.stable edit given).trans ((isStableOrderOf_ordered edits).stable edit given).symm

/-! ## Which edits are refused -/

/-- Is it the edits that are refused, rather than the octets that they leave? -/
def Fault.isRefusal : Fault → Bool
  | .outside _ _ => true
  | .overlap _ _ => true
  | .undecodable _ => false

theorem isRefusal_of_check {size : Nat} {previousEnd : Int} {edits : List Edit} {fault : Fault}
    (refused : check size previousEnd edits = .error fault) :
    fault.isRefusal = true := by
  induction edits generalizing previousEnd with
  | nil => simp [check] at refused
  | cons edit rest ih =>
      rw [check] at refused
      split_ifs at refused with outside overlap
      · cases refused
        rfl
      · cases refused
        rfl
      · exact ih refused

theorem isRefusal_of_readBack {octets : Utf8.Octets} {fault : Fault}
    (unread : readBack octets = .error fault) :
    fault.isRefusal = false := by
  rw [readBack] at unread
  cases decoded : Utf8.decode octets with
  | error inner =>
      rw [decoded] at unread
      cases unread
      rfl
  | ok text =>
      rw [decoded] at unread
      cases unread

/-- Edits are refused exactly if they do not pass the check. -/
theorem exists_refusal_iff {content : String} {edits : List Edit} :
    (∃ fault, applyAll content edits = .error fault ∧ fault.isRefusal = true) ↔
      check (Utf8.encode content.toList).length 0 (ordered edits) ≠ .ok () := by
  rw [applyAll_eq_bind]
  cases checked : check (Utf8.encode content.toList).length 0 (ordered edits) with
  | error fault =>
      simp only [ne_eq, reduceCtorEq, not_false_eq_true, iff_true]
      exact ⟨fault, rfl, isRefusal_of_check checked⟩
  | ok _ =>
      simp only [ne_eq, not_true_eq_false, iff_false]
      rintro ⟨fault, unread, refusal⟩
      rw [isRefusal_of_readBack unread] at refusal
      contradiction

theorem not_pairwise_isApart_iff {edits : List Edit} :
    ¬ edits.Pairwise IsApart ↔
      ∃ left right : Fin edits.length,
        left ≠ right ∧ ¬ (edits.get left).IsApart (edits.get right) := by
  constructor
  · intro meeting
    rw [List.pairwise_iff_get] at meeting
    push Not at meeting
    rcases meeting with ⟨left, right, before, meets⟩
    exact ⟨left, right, Fin.ne_of_lt before, meets⟩
  · rintro ⟨left, right, different, meets⟩ separate
    rw [List.pairwise_iff_get] at separate
    rcases Nat.lt_or_gt_of_ne (Fin.val_ne_of_ne different) with before | after
    · exact meets (separate left right before)
    · exact meets (separate right left after).symm

/--
Edits are refused if one of them does not lie inside the content, or if two of them, at
different places of the list, meet: neither ends where the other begins or before.  In every
other case they are applied, and only the octets that they leave can still be no text.
-/
theorem applyAll_refused_iff (content : String) (edits : List Edit) :
    (∃ fault, applyAll content edits = .error fault ∧ fault.isRefusal = true) ↔
      (∃ edit ∈ edits, ¬ edit.IsInside (Utf8.encode content.toList).length) ∨
        ∃ left right : Fin edits.length,
          left ≠ right ∧ ¬ (edits.get left).IsApart (edits.get right) := by
  rw [exists_refusal_iff, ne_eq, check_ordered_eq_ok_iff, not_and_or,
    not_pairwise_isApart_iff]
  push Not
  rfl

/-- Insertions at the ends of a span are in order, one inside it is not. -/
example :
    check 3 0 [⟨0, 0, "?"⟩, ⟨0, 2, "x"⟩, ⟨2, 2, "!"⟩, ⟨2, 2, "."⟩] = .ok () ∧
      check 3 0 [⟨0, 2, "x"⟩, ⟨1, 1, "!"⟩] = .error (.overlap 1 1) :=
  ⟨rfl, rfl⟩

/-! ## Edits in another order -/

/-- All edits that insert at one place are the same edit. -/
def InsertsAlike (edits : List Edit) : Prop :=
  ∀ left ∈ edits, ∀ right ∈ edits,
    left.start = left.stop → right.start = right.stop → left.start = right.start → left = right

/-- The check looks at nothing but the spans of the edits. -/
theorem check_congr {edits others : List Edit} (size : Nat) (previousEnd : Int)
    (same : edits.map span = others.map span) :
    check size previousEnd edits = check size previousEnd others := by
  induction edits generalizing others previousEnd with
  | nil =>
      cases others with
      | nil => rfl
      | cons other others => simp at same
  | cons edit edits ih =>
      cases others with
      | nil => simp at same
      | cons other others =>
          simp only [List.map_cons, List.cons.injEq, span, Prod.mk.injEq] at same
          rcases same with ⟨⟨starts, stops⟩, rest⟩
          rw [check, check, starts, stops, ih _ rest]

/-- Sorting gives the same spans in whatever order the edits come. -/
theorem spans_ordered_of_perm {edits others : List Edit} (same : edits.Perm others) :
    (ordered edits).map span = (ordered others).map span := by
  have inOrder (unsorted : List Edit) :
      ((ordered unsorted).map span).Pairwise fun left right =>
        left.1 < right.1 ∨ left.1 = right.1 ∧ left.2 ≤ right.2 :=
    List.pairwise_map.mpr ((pairwise_le_ordered unsorted).imp le_iff.mp)
  apply List.Perm.eq_of_pairwise _ (inOrder edits) (inOrder others)
  · exact (((ordered_perm edits).trans same).trans (ordered_perm others).symm).map _
  · rintro ⟨leftStart, leftStop⟩ ⟨rightStart, rightStop⟩ - - before after
    rw [Prod.mk.injEq]
    dsimp only at before after
    omega

/-- Edits that pass the check are sorted alike in whatever order they come. -/
theorem ordered_eq_of_perm {size : Nat} {edits others : List Edit}
    (same : edits.Perm others) (alike : InsertsAlike edits)
    (passed : check size 0 (ordered edits) = .ok ()) :
    ordered edits = ordered others := by
  rcases check_ordered_eq_ok_iff.mp passed with ⟨inside, separate⟩
  apply List.Perm.eq_of_pairwise _ (pairwise_le_ordered edits) (pairwise_le_ordered others)
  · exact ((ordered_perm edits).trans same).trans (ordered_perm others).symm
  · intro left right leftMember rightMember before after
    have leftGiven := (ordered_perm edits).mem_iff.mp leftMember
    have rightGiven := same.mem_iff.mpr ((ordered_perm others).mem_iff.mp rightMember)
    by_contra different
    -- Two different edits with one span are apart only if that span is empty.
    have insertion : left.start = left.stop ∧ right.start = right.stop ∧
        left.start = right.start := by
      have forward := (inside left leftGiven).2.1
      rw [le_iff] at before after
      rcases separate.forall leftGiven rightGiven different with ends | ends
      · omega
      · omega
    exact different
      (alike left leftGiven right rightGiven insertion.1 insertion.2.1 insertion.2.2)

/--
Edits end the same way in whatever order they are given, with the same text or with the same
fault, provided that no two of them insert different texts at one place.
-/
theorem applyAll_eq_of_perm (content : String) {edits others : List Edit}
    (same : edits.Perm others) (alike : InsertsAlike edits) :
    applyAll content edits = applyAll content others := by
  have checks := check_congr (Utf8.encode content.toList).length 0 (spans_ordered_of_perm same)
  rw [applyAll_eq_bind, applyAll_eq_bind, ← checks]
  cases checked : check (Utf8.encode content.toList).length 0 (ordered edits) with
  | error fault => rfl
  | ok _ => rw [ordered_eq_of_perm same alike checked]

/-- Touching spans, a repeated insertion and a letter of two octets, in two orders. -/
theorem applyAll_eq_of_perm_sample :
    InsertsAlike [⟨3, 4, "y"⟩, ⟨1, 3, "x"⟩, ⟨4, 4, "!"⟩, ⟨4, 4, "!"⟩] ∧
      applyAll "aéb" [⟨3, 4, "y"⟩, ⟨1, 3, "x"⟩, ⟨4, 4, "!"⟩, ⟨4, 4, "!"⟩] = .ok "axy!!" ∧
      applyAll "aéb" [⟨3, 4, "y"⟩, ⟨1, 3, "x"⟩, ⟨4, 4, "!"⟩, ⟨4, 4, "!"⟩] =
        applyAll "aéb" [⟨4, 4, "!"⟩, ⟨3, 4, "y"⟩, ⟨4, 4, "!"⟩, ⟨1, 3, "x"⟩] := by
  have alike : InsertsAlike [⟨3, 4, "y"⟩, ⟨1, 3, "x"⟩, ⟨4, 4, "!"⟩, ⟨4, 4, "!"⟩] := by
    unfold InsertsAlike
    decide
  have order : IsStableOrderOf [⟨3, 4, "y"⟩, ⟨1, 3, "x"⟩, ⟨4, 4, "!"⟩, ⟨4, 4, "!"⟩]
      [⟨1, 3, "x"⟩, ⟨3, 4, "y"⟩, ⟨4, 4, "!"⟩, ⟨4, 4, "!"⟩] :=
    ⟨by decide, by decide, by decide⟩
  refine ⟨alike, ?_, applyAll_eq_of_perm "aéb" (by decide) alike⟩
  rw [applyAll_eq_bind, ← order.eq_ordered]
  rfl

end CasingLint.Edit
