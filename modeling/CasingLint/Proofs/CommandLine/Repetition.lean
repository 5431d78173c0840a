import CasingLint.Proofs.CommandLine.Pool
import Mathlib.Algebra.BigOperators.Group.List.Basic
import Mathlib.Algebra.GroupWithZero.Nat
import Mathlib.Data.List.Perm.Subperm

/-!
# Files that are listed more than once

A path that is given twice, or a file that is given together with a directory that holds
it, is listed twice.  The tables of a survey have it once, and it is counted once, but its
findings are reported each time that it is listed.  So the findings are those of files
that are all different exactly if no file with findings is listed twice, under one path
or under two.
-/

namespace CasingLint.CommandLine

open CasingLint.Text CasingLint.Outcome

/-! ## Weights -/

/-- A part of a list that weighs as much as the whole is the whole, if everything has weight. -/
theorem perm_of_subperm_of_sum_le {α : Type} {part whole : List α} {weight : α → Nat}
    (within : part.Subperm whole) (heavy : ∀ each ∈ whole, 0 < weight each)
    (weighs : (whole.map weight).sum ≤ (part.map weight).sum) :
    part.Perm whole := by
  rcases within with ⟨ordered, reordered, sublist⟩
  rcases sublist.exists_perm_append with ⟨rest, split⟩
  have total : (whole.map weight).sum = (part.map weight).sum + (rest.map weight).sum := by
    rw [(split.map weight).sum_eq, List.map_append, List.sum_append,
      (reordered.map weight).sum_eq]
  have none : rest = [] := by
    cases rest with
    | nil => rfl
    | cons first others =>
        have first_heavy := heavy first (split.mem_iff.mpr (by simp))
        rw [List.map_cons, List.sum_cons] at total
        omega
  rw [none, List.append_nil] at split
  exact reordered.symm.trans split.symm

/-! ## Files with findings -/

section Repetition

variable (world : World) (settings : Settings) (rules : List Rule)

/-- Does a file have findings? -/
def contributes (file : String) : Bool :=
  !(findingsIn world settings rules file).isEmpty

/--
Does each file count once?  The findings are then those of listed files no two of which are
the same file, and no more of these have findings than were scanned.
-/
def ReportsOnce (files : List String) (found : Survey) : Prop :=
  ∃ chosen : List String,
    chosen ⊆ files ∧
      (chosen.map (Path.resolve world.store.directory)).Nodup ∧
      found.findings = chosen.flatMap (findingsIn world settings rules) ∧
      (chosen.filter (contributes world settings rules)).length ≤ found.filesScanned

variable {world settings rules}

theorem reads_of_contributes {file : String}
    (contributed : contributes world settings rules file = true) :
    world.reads file = true := by
  by_contra unread
  rw [contributes, findingsIn_of_not_reads (Bool.eq_false_iff.mpr unread)] at contributed
  contradiction

theorem flatMap_filter_contributes (files : List String) :
    (files.filter (contributes world settings rules)).flatMap
        (findingsIn world settings rules) =
      files.flatMap (findingsIn world settings rules) := by
  induction files with
  | nil => rfl
  | cons file rest ih =>
      rw [List.filter_cons, List.flatMap_cons]
      split
      · rw [List.flatMap_cons, ih]
      · rename_i nothing
        have none : findingsIn world settings rules file = [] := by
          simpa [contributes] using nothing
        rw [none, List.nil_append, ih]

/-- Different files with findings are all scanned. -/
theorem length_filter_contributes_le {files chosen : List String} {found : Survey}
    (report : IsReport world settings rules files found) (listed : chosen ⊆ files)
    (distinct : chosen.Nodup) :
    (chosen.filter (contributes world settings rules)).length ≤ found.filesScanned := by
  rw [report.filesScanned]
  apply List.Subperm.length_le
  apply List.subperm_of_subset (distinct.filter _)
  intro file member
  rcases List.mem_filter.mp member with ⟨among, contributed⟩
  rw [List.mem_eraseDups]
  exact List.mem_filter.mpr ⟨listed among, reads_of_contributes contributed⟩

/-- The findings are those of different files exactly if no file with findings is listed twice. -/
theorem IsReport.reportsOnce_iff {files : List String} {found : Survey}
    (report : IsReport world settings rules files found) :
    ReportsOnce world settings rules files found ↔
      ((files.filter (contributes world settings rules)).map
        (Path.resolve world.store.directory)).Nodup := by
  constructor
  · rintro ⟨chosen, listed, distinct, reported, -⟩
    have within : (chosen.filter (contributes world settings rules)).Subperm
        (files.filter (contributes world settings rules)) := by
      apply List.subperm_of_subset ((distinct.of_map _).filter _)
      intro file member
      rcases List.mem_filter.mp member with ⟨among, contributed⟩
      exact List.mem_filter.mpr ⟨listed among, contributed⟩
    -- Both parts have all findings, so there is no file with findings beside the chosen ones.
    have whole : (chosen.filter (contributes world settings rules)).Perm
        (files.filter (contributes world settings rules)) := by
      refine @perm_of_subperm_of_sum_le _ _ _
        (fun file => (findingsIn world settings rules file).length) within ?_ ?_
      · intro file member
        have contributed := List.of_mem_filter member
        rw [contributes, Bool.not_eq_true', List.isEmpty_eq_false_iff] at contributed
        exact List.length_pos_iff.mpr contributed
      · apply Nat.le_of_eq
        rw [← List.length_flatMap, ← List.length_flatMap, flatMap_filter_contributes,
          flatMap_filter_contributes, ← report.findings, reported]
    rw [← (whole.map _).nodup_iff]
    exact distinct.sublist (List.filter_sublist.map _)
  · intro distinct
    refine ⟨files.filter (contributes world settings rules), List.filter_subset_self files,
      distinct, ?_, ?_⟩
    · rw [flatMap_filter_contributes, report.findings]
    · exact length_filter_contributes_le report (List.filter_subset_self files)
        (distinct.of_map _)

theorem isReport_of_survey {catalogue : Catalogue} {patterns : Value} {paths : List String}
    {found : Survey} (surveyed : survey world catalogue settings patterns paths = .ok found) :
    ∃ rules, catalogue.enabled patterns Rule.Naming.language = .ok rules ∧
      IsReport world settings rules (world.store.sources paths).1 found := by
  rcases returns_of_survey surveyed with ⟨rules, enabled, returns⟩
  rcases exists_survey enabled returns with ⟨other, surveyedOther, report, -⟩
  cases Except.ok.inj (surveyed.symm.trans surveyedOther)
  exact ⟨rules, enabled, report⟩

/--
The findings of a survey are those of the listed files, each time that they are listed.  They
are those of files that are all different, and no more than were scanned, exactly if no file
with findings is listed twice.  In any case the different files with findings are scanned.
-/
theorem survey_reportsOnce_iff {catalogue : Catalogue} {patterns : Value} {paths : List String}
    {found : Survey} (surveyed : survey world catalogue settings patterns paths = .ok found) :
    ∃ rules, catalogue.enabled patterns Rule.Naming.language = .ok rules ∧
      found.findings =
        (world.store.sources paths).1.flatMap (findingsIn world settings rules) ∧
      (ReportsOnce world settings rules (world.store.sources paths).1 found ↔
        (((world.store.sources paths).1.filter (contributes world settings rules)).map
          (Path.resolve world.store.directory)).Nodup) ∧
      ((world.store.sources paths).1.eraseDups.filter
        (contributes world settings rules)).length ≤ found.filesScanned := by
  rcases isReport_of_survey surveyed with ⟨rules, enabled, report⟩
  refine ⟨rules, enabled, report.findings, report.reportsOnce_iff, ?_⟩
  exact length_filter_contributes_le report (fun _ member => List.mem_eraseDups.mp member)
    (nodup_eraseDups _)

end Repetition

/-- A file without findings may be listed twice; here that is one that cannot be read. -/
theorem survey_reportsOnce_iff_sample :
    ∃ found,
      survey Sample.brokenWorld Sample.catalogue .default Settings.default.enabledRules
          ["c.cs", "a.cs", "c.cs", "b.cs"] = .ok found ∧
        found.filesScanned = 2 ∧
        ReportsOnce Sample.brokenWorld .default [Rule.naming] ["c.cs", "a.cs", "c.cs", "b.cs"]
          found := by
  have listed : (Sample.brokenWorld.store.sources ["c.cs", "a.cs", "c.cs", "b.cs"]).1 =
      ["c.cs", "a.cs", "c.cs", "b.cs"] := by
    decide +kernel
  have enabled : Sample.catalogue.enabled Settings.default.enabledRules Rule.Naming.language =
      .ok [Rule.naming] := rfl
  have ends : (survey Sample.brokenWorld Sample.catalogue .default Settings.default.enabledRules
      ["c.cs", "a.cs", "c.cs", "b.cs"]).toOption.map Survey.filesScanned = some 2 := by
    decide +kernel
  cases surveyed : survey Sample.brokenWorld Sample.catalogue .default
      Settings.default.enabledRules ["c.cs", "a.cs", "c.cs", "b.cs"] with
  | error fault =>
      rw [surveyed] at ends
      cases ends
  | ok found =>
      rw [surveyed] at ends
      rcases survey_reportsOnce_iff surveyed with ⟨rules, enabledThere, -, once, -⟩
      cases Except.ok.inj (enabled.symm.trans enabledThere)
      rw [listed] at once
      exact ⟨found, rfl, Option.some_inj.mp ends, once.mpr (by decide +kernel)⟩

/-- A path that is given twice has its findings reported twice, though it is scanned once. -/
theorem survey_listedTwice :
    ∃ found,
      Sample.survey ["b.cs", "b.cs"] = .ok found ∧
        found.filesScanned = 1 ∧
        found.findings.map Finding.suggestion? = [some ⟨6, 9, "Foo"⟩, some ⟨6, 9, "Foo"⟩] ∧
        ¬ ReportsOnce Sample.world .default [Rule.naming] ["b.cs", "b.cs"] found := by
  have listed : (Sample.world.store.sources ["b.cs", "b.cs"]).1 = ["b.cs", "b.cs"] := by
    decide +kernel
  have enabled : Sample.catalogue.enabled Settings.default.enabledRules Rule.Naming.language =
      .ok [Rule.naming] := rfl
  have ends : (Sample.survey ["b.cs", "b.cs"]).toOption.map (fun found =>
      (found.filesScanned, found.findings.map Finding.suggestion?)) =
        some (1, [some ⟨6, 9, "Foo"⟩, some ⟨6, 9, "Foo"⟩]) := by
    decide +kernel
  cases surveyed : Sample.survey ["b.cs", "b.cs"] with
  | error fault =>
      rw [surveyed] at ends
      cases ends
  | ok found =>
      rw [surveyed] at ends
      rcases Prod.mk.inj (Option.some_inj.mp ends) with ⟨scanned, suggested⟩
      rcases isReport_of_survey surveyed with ⟨rules, enabledThere, report⟩
      cases Except.ok.inj (enabled.symm.trans enabledThere)
      rw [listed] at report
      refine ⟨found, rfl, scanned, suggested, ?_⟩
      rw [report.reportsOnce_iff]
      decide +kernel

end CasingLint.CommandLine
