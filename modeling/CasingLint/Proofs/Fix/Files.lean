import CasingLint.Fix
import CasingLint.Proofs.Analysis
import CasingLint.Proofs.FirstOccurrence

/-!
# Fixing the files of findings

The edits of findings are collected as a set: each is there once, however many findings
have it, and they stand in the order in which they first come.  For findings that mend
violations of the tree of a text these edits can be applied to the text, so the work on the
files of the findings goes on to its end.
-/

namespace CasingLint

open CasingLint.Text

/-! ## Collected edits -/

namespace Finding

/-- Edits are added to the first occurrences of those before them. -/
theorem areFirstsOf_addEdits {given collected : List Edit} (edits : List Edit)
    (firsts : AreFirstsOf given collected) :
    AreFirstsOf (given ++ edits) (addEdits collected edits) := by
  induction edits generalizing given collected with
  | nil => rwa [List.append_nil]
  | cons edit rest ih =>
      rw [addEdits, List.append_cons]
      apply ih
      split
      · rename_i known
        rw [List.contains_iff_mem, firsts.mem_iff] at known
        exact firsts.again known
      · rename_i new
        rw [List.contains_iff_mem, firsts.mem_iff] at new
        exact firsts.concat new

theorem areFirstsOf_collectEdits (findings : List Finding) :
    AreFirstsOf (findings.flatMap edits) (collectEdits findings) :=
  areFirstsOf_addEdits (findings.flatMap edits) AreFirstsOf.nil

theorem mem_collectEdits {findings : List Finding} {edit : Edit} :
    edit ∈ collectEdits findings ↔ ∃ finding ∈ findings, edit ∈ finding.edits := by
  rw [(areFirstsOf_collectEdits findings).mem_iff, List.mem_flatMap]

theorem nodup_collectEdits (findings : List Finding) :
    (collectEdits findings).Nodup :=
  (areFirstsOf_collectEdits findings).nodup

theorem MendsOneOf.mem_edits_iff {violations : List Violation} {finding : Finding}
    (mends : finding.MendsOneOf violations) {edit : Edit} :
    edit ∈ finding.edits ↔ finding.suggestion? = some edit := by
  rcases mends with ⟨violation, -, only, suggested⟩
  rw [only, suggested, List.mem_singleton, Option.some_inj, eq_comm]

theorem exists_violation_of_mem_collectEdits {violations : List Violation}
    {findings : List Finding} {edit : Edit}
    (mend : ∀ finding ∈ findings, finding.MendsOneOf violations)
    (member : edit ∈ collectEdits findings) :
    ∃ violation ∈ violations, violation.edit = edit := by
  rcases mem_collectEdits.mp member with ⟨finding, among, held⟩
  rcases mend finding among with ⟨violation, violated, only, -⟩
  rw [only, List.mem_singleton] at held
  exact ⟨violation, violated, held.symm⟩

/-- The edits of findings that mend violations of the tree of a text can be applied to it. -/
theorem exists_applyAll {text : String} {tree : SyntaxTree} {source : Utf8.Octets}
    {findings : List Finding} (parsed : tree.IsTreeOf SyntaxTree.isNameType text)
    (mend : ∀ finding ∈ findings, finding.MendsOneOf (tree.violations source)) :
    ∃ result : String,
      Edit.applyAll text (collectEdits findings) = .ok result ∧
        Edit.Rewrites 0 (Utf8.encode text.toList) (Edit.ordered (collectEdits findings))
          (Utf8.encode result.toList) := by
  have fromViolation : ∀ edit ∈ collectEdits findings,
      edit ∈ (tree.violations source).map Violation.edit := by
    intro edit member
    exact List.mem_map.mpr (exists_violation_of_mem_collectEdits mend member)
  have separate : (collectEdits findings).Pairwise Edit.IsApart := by
    refine (nodup_collectEdits findings).pairwise_of_forall_ne ?_
    intro left leftMember right rightMember different
    exact (SyntaxTree.pairwise_isApart_edits (fun _ isName => isName) parsed source).forall
      (fromViolation left leftMember) (fromViolation right rightMember) different
  have placed : ∀ edit ∈ collectEdits findings,
      edit.IsProper ∧
        edit.start.toNat ∈ Utf8.boundaries text.toList ∧
        edit.stop.toNat ∈ Utf8.boundaries text.toList := by
    intro edit member
    rcases exists_violation_of_mem_collectEdits mend member with ⟨violation, among, rfl⟩
    rcases List.mem_filterMap.mp among with ⟨binding, bound, violated⟩
    exact SyntaxTree.edit_of_violation? parsed bound violated
  exact Edit.applyAll_of_isApart separate (fun edit member => (placed edit member).1)
    fun edit member => (placed edit member).2

end Finding

/-! ## Fixes -/

namespace Fix

variable {directory : String} {texts : Report.Texts} {findings : List Finding}

theorem mem_files {file : String} :
    file ∈ files findings ↔ ∃ finding ∈ findings, finding.file = file := by
  rw [files, List.mem_eraseDups, List.mem_map]

theorem ofFile_eq {file before after : String}
    (known : Report.textOf? texts (Path.resolve directory file) = some before)
    (applied : Edit.applyAll before (Finding.collectEdits (findings.filter (·.file == file))) =
      .ok after) :
    ofFile directory texts findings file =
      .ok (if after = before then none
        else some ⟨file, (findings.filter (·.file == file)).length, before, after⟩) := by
  rw [ofFile, known]
  simp only [applied]
  rfl

theorem file_of_ofFile {file : String} {fix : Fix}
    (fixes : ofFile directory texts findings file = .ok (some fix)) :
    fix.file = file := by
  rw [ofFile] at fixes
  split at fixes
  · contradiction
  · rcases Outcome.bind_eq_ok_iff.mp fixes with ⟨after, -, ends⟩
    split at ends
    · cases ends
    · cases ends
      rfl

/-- Where each file by itself can be fixed, the work on all of them goes on to its end. -/
theorem exists_inOrder {chosen : List String}
    (each : ∀ file ∈ chosen, ∃ fix?, ofFile directory texts findings file = .ok fix?) :
    ∃ fixes,
      inOrder directory texts findings chosen = (fixes, none) ∧
        ∀ fix, fix ∈ fixes ↔
          ∃ file ∈ chosen, ofFile directory texts findings file = .ok (some fix) := by
  induction chosen with
  | nil => exact ⟨[], rfl, by simp⟩
  | cons file rest ih =>
      rcases List.forall_mem_cons.mp each with ⟨⟨fix?, first⟩, others⟩
      rcases ih others with ⟨fixes, ends, members⟩
      refine ⟨fix?.toList ++ fixes, ?_, ?_⟩
      · rw [inOrder, first]
        simp only [ends]
      · intro fix
        rw [List.mem_append, members, Option.mem_toList]
        simp only [List.exists_mem_cons_iff, first, Except.ok.injEq]

end Fix

end CasingLint
