import CasingLint.CommandLine.Run
import CasingLint.Proofs.Analysis
import CasingLint.Proofs.Store

/-!
# What a survey holds

A survey holds the findings and the texts of the source files that can be read.  The same
file can be analysed under several paths.  It then has the same text and the same findings
under each of them, and the text that is known for the absolute form of a path is the text
of the file.
-/

namespace CasingLint.CommandLine

open CasingLint.Text CasingLint.Outcome

/-- A source file that can be read, with its text as it is read and its findings. -/
structure IsAnalyzed (world : World) (settings : Settings) (rules : List Rule)
    (file text : String) (findings : List Finding) : Prop where
  reads : world.store.readText file = .ok text
  finds : ∃ rows,
    Analysis.analyze settings rules file text (world.parse text) = .ok (findings, rows)

/-- A survey with the naming rule alone: the findings and texts of the files that can be read. -/
structure IsSurvey (world : World) (settings : Settings) (rules : List Rule)
    (files : List String) (found : Survey) : Prop where
  standard : ∀ rule ∈ rules, rule = Rule.naming
  findings : ∀ finding, finding ∈ found.findings ↔
    ∃ file ∈ files, ∃ text findings,
      IsAnalyzed world settings rules file text findings ∧ finding ∈ findings
  texts : ∀ path text, (path, text) ∈ found.texts ↔
    ∃ file ∈ files, ∃ findings,
      IsAnalyzed world settings rules file text findings ∧
        path = Path.resolve world.store.directory file

section Surveying

variable {world : World} {settings : Settings} {rules : List Rule}

theorem analyzeFile_eq_analyzed_iff {file text : String} {findings : List Finding}
    {rows : List Log} :
    analyzeFile world settings rules file = .ok (.analyzed text findings rows) ↔
      world.store.readText file = .ok text ∧
        Analysis.analyze settings rules file text (world.parse text) = .ok (findings, rows) := by
  rw [analyzeFile]
  cases world.store.readText file with
  | error fault => simp
  | ok read =>
      rw [bind_eq_ok_iff]
      constructor
      · rintro ⟨pair, ends, same⟩
        cases same
        exact ⟨rfl, ends⟩
      · rintro ⟨same, ends⟩
        cases same
        exact ⟨(findings, rows), ends, rfl⟩

theorem isSurvey_ofResults {files : List String} {results : List (String × FileResult)}
    {found : Survey} (standard : ∀ rule ∈ rules, rule = Rule.naming)
    (members : ∀ file result, (file, result) ∈ results ↔
      file ∈ files ∧ analyzeFile world settings rules file = .ok result)
    (sameFindings : found.findings = (Survey.ofResults world.store.directory results).findings)
    (sameTexts : found.texts = (Survey.ofResults world.store.directory results).texts) :
    IsSurvey world settings rules files found where
  standard := standard
  findings finding := by
    rw [sameFindings, Survey.ofResults, List.mem_flatMap]
    constructor
    · rintro ⟨⟨file, result⟩, member, reported⟩
      rcases (members file result).mp member with ⟨among, analyzed⟩
      cases result with
      | unreadable fault => exact absurd reported List.not_mem_nil
      | analyzed text findings rows =>
          rcases analyzeFile_eq_analyzed_iff.mp analyzed with ⟨reads, ends⟩
          exact ⟨file, among, text, findings, ⟨reads, rows, ends⟩, reported⟩
    · rintro ⟨file, among, text, findings, ⟨reads, rows, ends⟩, reported⟩
      exact ⟨(file, .analyzed text findings rows),
        (members _ _).mpr ⟨among, analyzeFile_eq_analyzed_iff.mpr ⟨reads, ends⟩⟩, reported⟩
  texts path text := by
    rw [sameTexts, Survey.ofResults, List.mem_flatMap]
    constructor
    · rintro ⟨⟨file, result⟩, member, entry⟩
      rcases (members file result).mp member with ⟨among, analyzed⟩
      cases result with
      | unreadable fault => exact absurd entry List.not_mem_nil
      | analyzed read findings rows =>
          rcases analyzeFile_eq_analyzed_iff.mp analyzed with ⟨reads, ends⟩
          cases List.mem_singleton.mp entry
          exact ⟨file, among, findings, ⟨reads, rows, ends⟩, rfl⟩
    · rintro ⟨file, among, findings, ⟨reads, rows, ends⟩, rfl⟩
      exact ⟨(file, .analyzed text findings rows),
        (members _ _).mpr ⟨among, analyzeFile_eq_analyzed_iff.mpr ⟨reads, ends⟩⟩,
        List.mem_singleton.mpr rfl⟩

theorem exists_isSurvey {catalogue : Catalogue} {patterns : Value} {paths : List String}
    {found : Survey} (standard : ∀ rule ∈ catalogue.rules, rule = Rule.naming)
    (surveyed : survey world catalogue settings patterns paths = .ok found) :
    ∃ rules files, IsSurvey world settings rules files found := by
  rcases bind_eq_ok_iff.mp surveyed with ⟨rules, enabled, surveyedBy⟩
  rcases bind_eq_ok_iff.mp surveyedBy with ⟨results, analyzed, same⟩
  cases same
  refine ⟨rules, (world.store.sources paths).1,
    @isSurvey_ofResults world settings rules _ results _ ?_ ?_ rfl rfl⟩
  · rcases bind_eq_ok_iff.mp enabled with ⟨matchers, -, selected⟩
    intro rule member
    exact standard rule ((sublist_of_filterM selected).subset member)
  · intro file result
    rw [mem_of_mapM_eq_ok analyzed]
    constructor
    · rintro ⟨other, among, ends⟩
      rcases bind_eq_ok_iff.mp ends with ⟨value, analyzedOther, same⟩
      cases same
      exact ⟨among, analyzedOther⟩
    · rintro ⟨among, ends⟩
      exact ⟨file, among, bind_eq_ok_iff.mpr ⟨result, ends, rfl⟩⟩

/-! ## The same file under several paths -/

theorem IsAnalyzed.unique {file text other : String} {findings others : List Finding}
    (first : IsAnalyzed world settings rules file text findings)
    (second : IsAnalyzed world settings rules file other others) :
    text = other ∧ findings = others := by
  have sameText := Except.ok.inj (first.reads.symm.trans second.reads)
  subst sameText
  rcases first.finds with ⟨rows, ends⟩
  rcases second.finds with ⟨otherRows, otherEnds⟩
  have same := Except.ok.inj (ends.symm.trans otherEnds)
  exact ⟨rfl, congrArg Prod.fst same⟩

/-- The findings for a text are the same for every file that has it. -/
theorem IsAnalyzed.exists_common {file text : String} {findings : List Finding}
    (standard : ∀ rule ∈ rules, rule = Rule.naming)
    (analyzed : IsAnalyzed world settings rules file text findings) :
    ∃ common : List Finding,
      (∀ finding ∈ common,
        finding.MendsOneOf ((world.parse text).violations (Utf8.encode text.toList))) ∧
        ∀ other others, IsAnalyzed world settings rules other text others →
          others = common.map (Finding.inFile other) := by
  rcases analyzed.finds with ⟨rows, ends⟩
  rcases Analysis.analyze_uniform settings text (world.parse text) standard with
    fails | @⟨common, mend, endsAll⟩
  · rw [fails file] at ends
    contradiction
  · refine ⟨common, mend, ?_⟩
    intro other others otherAnalyzed
    rcases endsAll other with ⟨commonRows, commonEnds⟩
    rcases otherAnalyzed.finds with ⟨otherRows, otherEnds⟩
    exact congrArg Prod.fst (Except.ok.inj (otherEnds.symm.trans commonEnds))

theorem IsAnalyzed.file_eq {file text : String} {findings : List Finding} {finding : Finding}
    (standard : ∀ rule ∈ rules, rule = Rule.naming)
    (analyzed : IsAnalyzed world settings rules file text findings)
    (reported : finding ∈ findings) :
    finding.file = file := by
  rcases analyzed.exists_common standard with ⟨common, -, same⟩
  rw [same file findings analyzed] at reported
  rcases List.mem_map.mp reported with ⟨shared, -, rfl⟩
  rfl

theorem IsAnalyzed.mendsOneOf {file text : String} {findings : List Finding} {finding : Finding}
    (standard : ∀ rule ∈ rules, rule = Rule.naming)
    (analyzed : IsAnalyzed world settings rules file text findings)
    (reported : finding ∈ findings) :
    finding.MendsOneOf ((world.parse text).violations (Utf8.encode text.toList)) := by
  rcases analyzed.exists_common standard with ⟨common, mend, same⟩
  rw [same file findings analyzed] at reported
  rcases List.mem_map.mp reported with ⟨shared, member, rfl⟩
  exact (mend shared member).inFile file

theorem IsAnalyzed.exists_suggestion {file other text : String} {findings others : List Finding}
    {finding : Finding} (standard : ∀ rule ∈ rules, rule = Rule.naming)
    (analyzed : IsAnalyzed world settings rules file text findings)
    (analyzedOther : IsAnalyzed world settings rules other text others)
    (reported : finding ∈ findings) :
    ∃ counterpart ∈ others, counterpart.suggestion? = finding.suggestion? := by
  rcases analyzed.exists_common standard with ⟨common, -, same⟩
  rw [same file findings analyzed] at reported
  rcases List.mem_map.mp reported with ⟨shared, member, rfl⟩
  refine ⟨shared.inFile other, ?_, rfl⟩
  rw [same other others analyzedOther]
  exact List.mem_map_of_mem member

/-! ## Findings and texts by file -/

variable {files : List String} {found : Survey}

/-- The text that is known for the absolute form of a path is what the path reads as. -/
theorem IsSurvey.textOf? (surveyed : IsSurvey world settings rules files found)
    {file text : String} {findings : List Finding} (among : file ∈ files)
    (analyzed : IsAnalyzed world settings rules file text findings) :
    Report.textOf? found.texts (Path.resolve world.store.directory file) = some text := by
  apply Entry.lookup_of_unique
  · exact List.mem_reverse.mpr ((surveyed.texts _ _).mpr ⟨file, among, findings, analyzed, rfl⟩)
  · intro other member
    rcases (surveyed.texts _ _).mp (List.mem_reverse.mp member) with
      ⟨otherFile, -, others, otherAnalyzed, same⟩
    rcases Store.exists_way_of_readText analyzed.reads with ⟨names, -, leads, -⟩
    rcases Store.exists_way_of_readText otherAnalyzed.reads with ⟨otherNames, -, otherLeads, -⟩
    cases Store.way_eq_of_resolve_eq same leads otherLeads
    have sameText := Store.readText_of_way leads otherLeads analyzed.reads
    exact Except.ok.inj (otherAnalyzed.reads.symm.trans sameText)

theorem IsSurvey.exists_analyzed (surveyed : IsSurvey world settings rules files found)
    {finding : Finding} (member : finding ∈ found.findings) :
    finding.file ∈ files ∧
      ∃ text findings,
        IsAnalyzed world settings rules finding.file text findings ∧ finding ∈ findings := by
  rcases (surveyed.findings finding).mp member with
    ⟨file, among, text, findings, analyzed, reported⟩
  cases analyzed.file_eq surveyed.standard reported
  exact ⟨among, text, findings, analyzed, reported⟩

/-- The findings that name a file are those of its analysis. -/
theorem IsSurvey.mem_filter_iff (surveyed : IsSurvey world settings rules files found)
    {file text : String} {findings : List Finding} (among : file ∈ files)
    (analyzed : IsAnalyzed world settings rules file text findings) {finding : Finding} :
    finding ∈ found.findings.filter (·.file == file) ↔ finding ∈ findings := by
  rw [List.mem_filter, beq_iff_eq]
  constructor
  · rintro ⟨member, rfl⟩
    rcases surveyed.exists_analyzed member with ⟨-, other, others, otherAnalyzed, reported⟩
    rw [(analyzed.unique otherAnalyzed).2]
    exact reported
  · intro reported
    exact ⟨(surveyed.findings finding).mpr ⟨file, among, text, findings, analyzed, reported⟩,
      analyzed.file_eq surveyed.standard reported⟩

/-- All paths of a file have the same suggestions for it. -/
theorem IsSurvey.suggested_iff (surveyed : IsSurvey world settings rules files found)
    {finding : Finding} {names : List String}
    (member : finding ∈ found.findings) (leads : world.store.way finding.file = .ok names)
    (edit : Edit) :
    (∃ own ∈ found.findings, own.file = finding.file ∧ own.suggestion? = some edit) ↔
      ∃ other ∈ found.findings,
        world.store.way other.file = .ok names ∧ other.suggestion? = some edit := by
  constructor
  · rintro ⟨own, reported, sameFile, suggested⟩
    exact ⟨own, reported, sameFile ▸ leads, suggested⟩
  · rintro ⟨other, reported, otherLeads, suggested⟩
    rcases surveyed.exists_analyzed member with ⟨among, text, findings, analyzed, -⟩
    rcases surveyed.exists_analyzed reported with
      ⟨-, otherText, others, otherAnalyzed, otherReported⟩
    have sameText := otherAnalyzed.reads.symm.trans
      (Store.readText_of_way leads otherLeads analyzed.reads)
    cases sameText
    rcases otherAnalyzed.exists_suggestion surveyed.standard analyzed otherReported with
      ⟨own, ownReported, same⟩
    exact ⟨own, (surveyed.findings own).mpr ⟨_, among, text, findings, analyzed, ownReported⟩,
      analyzed.file_eq surveyed.standard ownReported, same.trans suggested⟩

end Surveying

end CasingLint.CommandLine
