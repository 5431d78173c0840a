import CasingLint.Proofs.Fix.Files
import Mathlib.Data.List.Induction

/-!
# Findings that are reported more than once

A file may be listed twice, and several rules may propose the same change, so the edits of a
list of findings may come many times.  An edit that replaces octets must not be applied twice:
it would overlap itself, and nothing of the file would be fixed.

The collected edits are the first occurrences of those that the findings propose.  Findings
whose edits have all come before add nothing to them, and so it is enough to look at the first
report of each finding.
-/

namespace CasingLint.Finding

/-! ## Edits that have come before -/

theorem addEdits_append (collected front back : List Edit) :
    addEdits collected (front ++ back) = addEdits (addEdits collected front) back := by
  induction front generalizing collected with
  | nil => rfl
  | cons edit rest ih =>
      rw [List.cons_append, addEdits, addEdits, ih]

theorem addEdits_of_known {collected edits : List Edit}
    (known : ∀ edit ∈ edits, edit ∈ collected) :
    addEdits collected edits = collected := by
  induction edits with
  | nil => rfl
  | cons edit rest ih =>
      rcases List.forall_mem_cons.mp known with ⟨knownFirst, knownRest⟩
      rw [addEdits, if_pos (List.contains_iff_mem.mpr knownFirst)]
      exact ih knownRest

theorem collectEdits_append (front back : List Finding) :
    collectEdits (front ++ back) = addEdits (collectEdits front) (back.flatMap edits) := by
  rw [collectEdits, List.flatMap_append, addEdits_append]
  rfl

theorem collectEdits_append_of_known {front back : List Finding}
    (known : ∀ edit ∈ back.flatMap edits, edit ∈ front.flatMap edits) :
    collectEdits (front ++ back) = collectEdits front := by
  rw [collectEdits_append]
  apply addEdits_of_known
  intro edit proposed
  exact ((areFirstsOf_collectEdits front).mem_iff edit).mpr (known edit proposed)

/-! ## Reports -/

/-- The first reports of findings exist, and they propose the same edits in the same order. -/
theorem exists_firstReports (reported : List Finding) :
    ∃ once, AreFirstsOf reported once ∧ collectEdits reported = collectEdits once := by
  induction reported using List.reverseRecOn with
  | nil => exact ⟨[], AreFirstsOf.nil, rfl⟩
  | append_singleton earlier finding ih =>
      rcases ih with ⟨once, firsts, same⟩
      by_cases known : finding ∈ earlier
      · -- A report that comes again proposes only edits that have come with the first one.
        refine ⟨once, firsts.again known, ?_⟩
        rw [collectEdits_append_of_known, same]
        intro edit proposed
        rw [List.flatMap_singleton] at proposed
        exact List.mem_flatMap.mpr ⟨finding, known, proposed⟩
      · refine ⟨once ++ [finding], firsts.concat known, ?_⟩
        rw [collectEdits_append, collectEdits_append, same]

theorem collectEdits_of_areFirstsOf {reported once : List Finding}
    (firsts : AreFirstsOf reported once) :
    collectEdits reported = collectEdits once := by
  rcases exists_firstReports reported with ⟨others, same, collected⟩
  rw [collected, firsts.unique same]

theorem mem_edits_iff {finding : Finding} {edit : Edit} :
    edit ∈ finding.edits ↔ ∃ proposed, finding.autofix = some proposed ∧ edit ∈ proposed := by
  rw [edits]
  cases finding.autofix with
  | none => simp
  | some proposed => simp

/--
The collected edits are those that some finding proposes, each once, in the order in which they
first come.  Findings that propose nothing new change nothing.  Edits are applied with the same
result, or refused with the same fault, however often each finding is reported: two lists that
report the same findings, for the first time in the same order, are fixed alike.
-/
theorem collectEdits_areFirsts (findings : List Finding) :
    AreFirstsOf (findings.flatMap edits) (collectEdits findings) ∧
      (∀ edit, edit ∈ collectEdits findings ↔
        ∃ finding ∈ findings, ∃ proposed, finding.autofix = some proposed ∧ edit ∈ proposed) ∧
      (∀ others : List Finding,
        (∀ edit ∈ others.flatMap edits, edit ∈ findings.flatMap edits) →
          collectEdits (findings ++ others) = collectEdits findings) ∧
      ∀ (content : String) (reported once : List Finding),
        AreFirstsOf findings once → AreFirstsOf reported once →
          Edit.applyAll content (collectEdits reported) =
            Edit.applyAll content (collectEdits findings) := by
  refine ⟨areFirstsOf_collectEdits findings, ?_, ?_, ?_⟩
  · intro edit
    rw [mem_collectEdits]
    simp only [mem_edits_iff]
  · intro others known
    exact collectEdits_append_of_known known
  · intro content reported once firsts firstsThere
    rw [collectEdits_of_areFirstsOf firstsThere, collectEdits_of_areFirstsOf firsts]

namespace Sample

/-- A rule gives a class its name. -/
def rename : Finding :=
  ⟨"naming", "", "a.cs", 6, 9, .text "warn", some [⟨6, 9, "Foo"⟩], none⟩

/-- A rule has nothing to offer. -/
def remark : Finding :=
  ⟨"length", "", "a.cs", 0, 13, .text "info", none, none⟩

/-- Another rule gives the class the same name and closes its body up. -/
def tidying : Finding :=
  ⟨"layout", "", "a.cs", 6, 13, .text "warn", some [⟨6, 9, "Foo"⟩, ⟨10, 13, "{}"⟩], none⟩

/-- Each finding once. -/
def once : List Finding :=
  [rename, remark, tidying]

/-- The findings of a file that is listed twice, with one of them a third time. -/
def reported : List Finding :=
  [rename, remark, rename, tidying, rename, remark, tidying]

theorem not_mem_of_rule {finding : Finding} {earlier : List Finding}
    (other : finding.rule ∉ earlier.map Finding.rule) :
    finding ∉ earlier :=
  mt List.mem_map_of_mem other

theorem areFirstsOf_two : AreFirstsOf [rename, remark] [rename, remark] :=
  have one : AreFirstsOf [rename] [rename] :=
    AreFirstsOf.nil.concat (not_mem_of_rule (by decide))
  one.concat (not_mem_of_rule (by decide))

theorem areFirstsOf_once : AreFirstsOf once once :=
  areFirstsOf_two.concat (not_mem_of_rule (by decide))

theorem areFirstsOf_reported : AreFirstsOf reported once :=
  have third : AreFirstsOf [rename, remark, rename, tidying] once :=
    (areFirstsOf_two.again (by simp)).concat (not_mem_of_rule (by decide))
  ((third.again (by simp)).again (by simp)).again (by simp)

end Sample

/-- A rename from two rules and a finding without edits, in a file that is listed twice. -/
theorem collectEdits_areFirsts_twice :
    AreFirstsOf Sample.once Sample.once ∧
      AreFirstsOf Sample.reported Sample.once ∧
      (∀ edit ∈ Sample.reported.flatMap edits, edit ∈ Sample.once.flatMap edits) ∧
      collectEdits (Sample.once ++ Sample.reported) = [⟨6, 9, "Foo"⟩, ⟨10, 13, "{}"⟩] ∧
      Edit.applyAll "class foo { }" (collectEdits Sample.reported) = .ok "class Foo {}" := by
  have collected : collectEdits Sample.once = [⟨6, 9, "Foo"⟩, ⟨10, 13, "{}"⟩] := rfl
  have inOrder : Edit.ordered (collectEdits Sample.once) = collectEdits Sample.once :=
    List.mergeSort_of_pairwise (by decide)
  have applied : Edit.applyAll "class foo { }" (collectEdits Sample.once) = .ok "class Foo {}" := by
    rw [Edit.applyAll_eq_bind, inOrder]
    rfl
  have known : ∀ edit ∈ Sample.reported.flatMap edits, edit ∈ Sample.once.flatMap edits := by
    decide
  have firsts := collectEdits_areFirsts Sample.once
  refine ⟨Sample.areFirstsOf_once, Sample.areFirstsOf_reported, known, ?_, ?_⟩
  · rw [firsts.2.2.1 Sample.reported known, collected]
  · rw [← applied]
    exact firsts.2.2.2 "class foo { }" Sample.reported Sample.once Sample.areFirstsOf_once
      Sample.areFirstsOf_reported

/-- The rename by itself would be refused if it came twice. -/
example :
    Edit.check 13 0 [⟨6, 9, "Foo"⟩, ⟨6, 9, "Foo"⟩] = .error (.overlap 6 9) := rfl

end CasingLint.Finding
