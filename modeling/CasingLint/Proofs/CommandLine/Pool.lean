import CasingLint.CommandLine.Pool
import CasingLint.Proofs.CommandLine.Fixing
import CasingLint.Proofs.FirstOccurrence
import Mathlib.Data.List.Dedup

/-!
# Surveys do not depend on the order of the work

A pool takes in every file that it was given, once for each time that it was given, in
some order.  The tables that come out of it depend only on which files these are: a path
always has the same findings, and paths with the same absolute form have the same text.
So the survey that is put together from the tables is the survey of the files one after
the other.
-/

namespace CasingLint.CommandLine

open CasingLint.Text CasingLint.Outcome

/-! ## What a pool takes in -/

namespace Pool

/-- All files of a pool, wherever they are. -/
def files (pool : Pool) : List String :=
  pool.waiting ++ pool.running ++ pool.done ++ pool.received

/-- No step loses a file or adds one. -/
theorem Step.perm_files {workers : Nat} {pool next : Pool} (step : Step workers pool next) :
    next.files.Perm pool.files := by
  rw [List.perm_iff_count]
  intro file
  cases step with
  | start free =>
      simp only [files, List.count_append, List.count_cons]
      omega
  | finish =>
      simp only [files, List.count_append, List.count_cons]
      omega
  | receive =>
      simp only [files, List.count_append, List.count_cons, List.count_nil]
      omega

/-- Whatever the number of workers, the files are taken in in some order. -/
theorem Delivers.perm {workers : Nat} {submitted order : List String}
    (delivers : Delivers workers submitted order) :
    order.Perm submitted := by
  have kept : ∀ pool, Relation.ReflTransGen (Step workers) { waiting := submitted } pool →
      pool.files.Perm submitted := by
    intro pool steps
    induction steps with
    | refl => simp [files]
    | tail _ step ih => exact step.perm_files.trans ih
  exact kept _ delivers

end Pool

/-! ## What becomes of a file -/

section Surveying

variable (world : World) (settings : Settings) (rules : List Rule)

/-- Can a file be read? -/
def World.reads (file : String) : Bool :=
  (world.store.readText file).isOk

/-- The findings for a file, of which one that cannot be read has none. -/
def findingsIn (file : String) : List Finding :=
  match world.store.readText file with
  | .error _ => []
  | .ok text =>
    match Analysis.analyze settings rules file text (world.parse text) with
    | .error _ => []
    | .ok (findings, _) => findings

/-- Does the work on each of the files come to an end, be it that it does not open or is no text? -/
def Returns (files : List String) : Prop :=
  ∀ file ∈ files, ∃ result, analyzeFile world settings rules file = .ok result

/-- The survey of files as they are in the store, without regard to the order of the work. -/
structure IsReport (files : List String) (found : Survey) : Prop where
  findings : found.findings = files.flatMap (findingsIn world settings rules)
  texts : ∀ path text, Report.textOf? found.texts path = some text ↔
    ∃ file ∈ files, Path.resolve world.store.directory file = path ∧
      world.store.readText file = .ok text
  filesScanned : found.filesScanned = ((files.filter world.reads).eraseDups).length

variable {world settings rules}

theorem findingsIn_of_not_reads {file : String} (unread : world.reads file = false) :
    findingsIn world settings rules file = [] := by
  rw [findingsIn]
  rw [World.reads] at unread
  cases read : world.store.readText file with
  | error fault => rfl
  | ok text =>
      rw [read] at unread
      contradiction

/-- A file whose work comes to an end cannot be read, or it is analysed. -/
theorem analyzeFile_cases {file : String}
    (returns : ∃ result, analyzeFile world settings rules file = .ok result) :
    (∃ fault, world.store.readText file = .error fault ∧
        analyzeFile world settings rules file = .ok (.unreadable fault)) ∨
      ∃ text rows, world.store.readText file = .ok text ∧
        analyzeFile world settings rules file =
          .ok (.analyzed text (findingsIn world settings rules file) rows) := by
  rcases returns with ⟨result, ends⟩
  rw [findingsIn]
  rw [analyzeFile] at ends ⊢
  cases read : world.store.readText file with
  | error fault => exact Or.inl ⟨fault, rfl, rfl⟩
  | ok text =>
      rw [read] at ends
      rcases bind_eq_ok_iff.mp ends with ⟨⟨findings, rows⟩, analyzed, -⟩
      refine Or.inr ⟨text, rows, rfl, ?_⟩
      simp only [analyzed]
      rfl

/-- Paths with the same absolute form have the same text. -/
theorem text_eq_of_resolve_eq {left right leftText rightText : String}
    (same : Path.resolve world.store.directory left = Path.resolve world.store.directory right)
    (leftReads : world.store.readText left = .ok leftText)
    (rightReads : world.store.readText right = .ok rightText) :
    leftText = rightText := by
  rcases Store.exists_way_of_readText leftReads with ⟨names, -, leads, -⟩
  rcases Store.exists_way_of_readText rightReads with ⟨otherNames, -, otherLeads, -⟩
  cases Store.way_eq_of_resolve_eq same leads otherLeads
  exact Except.ok.inj ((Store.readText_of_way otherLeads leads rightReads).symm.trans leftReads).symm

/-! ## One file after the other -/

/-- What becomes of a file whose work comes to an end. -/
def resultOf (world : World) (settings : Settings) (rules : List Rule) (file : String) :
    FileResult :=
  match analyzeFile world settings rules file with
  | .ok result => result
  | .error fault => .unreadable fault

variable {files : List String}

theorem analyzeFile_eq_resultOf {file : String}
    (returns : ∃ result, analyzeFile world settings rules file = .ok result) :
    analyzeFile world settings rules file = .ok (resultOf world settings rules file) := by
  rcases returns with ⟨result, ends⟩
  rw [resultOf, ends]

theorem resultOf_cases {file : String}
    (returns : ∃ result, analyzeFile world settings rules file = .ok result) :
    (∃ fault, world.store.readText file = .error fault ∧
        resultOf world settings rules file = .unreadable fault) ∨
      ∃ text rows, world.store.readText file = .ok text ∧
        resultOf world settings rules file =
          .analyzed text (findingsIn world settings rules file) rows := by
  have ends := analyzeFile_eq_resultOf returns
  rcases analyzeFile_cases returns with ⟨fault, unread, same⟩ | ⟨text, rows, read, same⟩
  · exact Or.inl ⟨fault, unread, Except.ok.inj (ends.symm.trans same)⟩
  · exact Or.inr ⟨text, rows, read, Except.ok.inj (ends.symm.trans same)⟩

theorem findings_resultOf {file : String}
    (returns : ∃ result, analyzeFile world settings rules file = .ok result) :
    (resultOf world settings rules file).findings = findingsIn world settings rules file := by
  rcases resultOf_cases returns with ⟨fault, unread, same⟩ | ⟨text, rows, read, same⟩
  · rw [same, findingsIn, unread]
    rfl
  · rw [same]
    rfl

theorem isAnalyzed_resultOf {file : String}
    (returns : ∃ result, analyzeFile world settings rules file = .ok result) :
    (resultOf world settings rules file).isAnalyzed = world.reads file := by
  rw [World.reads]
  rcases resultOf_cases returns with ⟨fault, unread, same⟩ | ⟨text, rows, read, same⟩
  · rw [same, unread]
    rfl
  · rw [same, read]
    rfl

theorem mem_textEntry_resultOf {file path text : String}
    (returns : ∃ result, analyzeFile world settings rules file = .ok result) :
    (path, text) ∈ (resultOf world settings rules file).textEntry world.store.directory file ↔
      Path.resolve world.store.directory file = path ∧ world.store.readText file = .ok text := by
  rcases resultOf_cases returns with ⟨fault, unread, same⟩ | ⟨own, rows, read, same⟩
  · rw [same, unread]
    simp [FileResult.textEntry]
  · rw [same, read]
    simp [FileResult.textEntry, eq_comm]

theorem mem_texts_ofResults {path text : String} (returns : Returns world settings rules files) :
    (path, text) ∈ (Survey.ofResults world.store.directory
        (files.map fun file => (file, resultOf world settings rules file))).texts ↔
      ∃ file ∈ files, Path.resolve world.store.directory file = path ∧
        world.store.readText file = .ok text := by
  simp only [Survey.ofResults, List.flatMap_map, List.mem_flatMap]
  exact exists_congr fun file => and_congr_right fun member =>
    mem_textEntry_resultOf (returns file member)

/-- The results for files one after the other give a report of them. -/
theorem isReport_ofResults (returns : Returns world settings rules files) :
    IsReport world settings rules files (Survey.ofResults world.store.directory
      (files.map fun file => (file, resultOf world settings rules file))) := by
  constructor
  · simp only [Survey.ofResults, List.flatMap_map]
    exact List.flatMap_congr fun file member => findings_resultOf (returns file member)
  · intro path text
    rw [← mem_texts_ofResults returns, ← List.mem_reverse]
    constructor
    · intro known
      rcases List.lookup_eq_some_iff.mp known with ⟨before, after, split, -⟩
      rw [split]
      exact List.mem_append_right _ List.mem_cons_self
    · intro member
      refine Entry.lookup_of_unique member ?_
      intro other otherMember
      rw [List.mem_reverse, mem_texts_ofResults returns] at member otherMember
      rcases member with ⟨file, -, resolved, read⟩
      rcases otherMember with ⟨otherFile, -, otherResolved, otherRead⟩
      exact text_eq_of_resolve_eq (otherResolved.trans resolved.symm) otherRead read
  · simp only [Survey.ofResults, List.filter_map, List.map_map]
    have onlyRead : files.filter ((fun pair : String × FileResult => pair.2.isAnalyzed) ∘
        fun file => (file, resultOf world settings rules file)) = files.filter world.reads :=
      List.filter_congr fun file member => isAnalyzed_resultOf (returns file member)
    have named : (Prod.fst ∘ fun file => (file, resultOf world settings rules file)) = id := rfl
    rw [named, List.map_id, ← onlyRead]

theorem returns_of_survey {catalogue : Catalogue} {patterns : Value} {paths : List String}
    {found : Survey} (surveyed : survey world catalogue settings patterns paths = .ok found) :
    ∃ rules, catalogue.enabled patterns Rule.Naming.language = .ok rules ∧
      Returns world settings rules (world.store.sources paths).1 := by
  rcases bind_eq_ok_iff.mp surveyed with ⟨rules, enabled, surveyedBy⟩
  rcases bind_eq_ok_iff.mp surveyedBy with ⟨results, analyzed, -⟩
  refine ⟨rules, enabled, fun file member => ?_⟩
  rcases exists_of_mapM_eq_ok analyzed member with ⟨pair, -, ends⟩
  rcases bind_eq_ok_iff.mp ends with ⟨result, analyzedFile, -⟩
  exact ⟨result, analyzedFile⟩

/-- Where the work on each file comes to an end, the survey ends with a report of the files. -/
theorem exists_survey {catalogue : Catalogue} {patterns : Value} {paths : List String}
    (enabled : catalogue.enabled patterns Rule.Naming.language = .ok rules)
    (returns : Returns world settings rules (world.store.sources paths).1) :
    ∃ found, survey world catalogue settings patterns paths = .ok found ∧
      IsReport world settings rules (world.store.sources paths).1 found ∧
      found.rulesRun = rules.length := by
  have results : (world.store.sources paths).1.mapM (fun file => do
      return (file, ← analyzeFile world settings rules file)) =
        .ok ((world.store.sources paths).1.map
          fun file => (file, resultOf world settings rules file)) := by
    apply mapM_eq_map
    intro file member
    rw [analyzeFile_eq_resultOf (returns file member)]
    rfl
  have report := isReport_ofResults returns
  rw [survey, enabled]
  simp only [bind, Except.bind] at results ⊢
  rw [results]
  exact ⟨_, rfl, ⟨report.findings, report.texts, report.filesScanned⟩, rfl⟩

/-! ## On a pool -/

/-- The tables that hold what was found in the files that were taken in. -/
structure Intake.Holds (world : World) (settings : Settings) (rules : List Rule)
    (received : List String) (intake : Intake) : Prop where
  findings : ∀ file, intake.findings.lookup file =
    if file ∈ received ∧ world.reads file = true then some (findingsIn world settings rules file)
    else none
  texts : ∀ path text, intake.texts.lookup path = some text ↔
    ∃ file ∈ received, Path.resolve world.store.directory file = path ∧
      world.store.readText file = .ok text
  distinctFiles : (intake.findings.map Prod.fst).Nodup
  distinctPaths : (intake.texts.map Prod.fst).Nodup

namespace Intake

variable {received : List String} {intake : Intake} {file : String}

theorem holds_empty :
    Holds world settings rules [] {} where
  findings file := by simp
  texts path text := by simp
  distinctFiles := List.nodup_nil
  distinctPaths := List.nodup_nil

/-- A file that cannot be read leaves the tables as they are. -/
theorem Holds.receive_unreadable {fault : Fault} (holds : Holds world settings rules received intake)
    (unread : world.store.readText file = .error fault) :
    Holds world settings rules (received ++ [file]) intake where
  findings sought := by
    have notRead : world.reads file = false := by
      rw [World.reads, unread]
      rfl
    rw [holds.findings]
    refine if_congr ?_ rfl rfl
    rw [List.mem_append, List.mem_singleton, or_and_right]
    refine (or_iff_left ?_).symm
    rintro ⟨rfl, read⟩
    rw [notRead] at read
    contradiction
  texts path text := by
    rw [holds.texts]
    constructor
    · rintro ⟨other, member, known⟩
      exact ⟨other, List.mem_append_left _ member, known⟩
    · rintro ⟨other, member, resolved, read⟩
      rcases List.mem_append.mp member with early | last
      · exact ⟨other, early, resolved, read⟩
      · rw [List.mem_singleton.mp last, unread] at read
        contradiction
  distinctFiles := holds.distinctFiles
  distinctPaths := holds.distinctPaths

/-- A file that is analysed gets its places in the tables. -/
theorem Holds.receive_analyzed {text : String} {rows : List Log}
    (holds : Holds world settings rules received intake)
    (read : world.store.readText file = .ok text) :
    Holds world settings rules (received ++ [file])
      (intake.receive world.store.directory file
        (.analyzed text (findingsIn world settings rules file) rows)) where
  findings sought := by
    have isRead : world.reads file = true := by
      rw [World.reads, read]
      rfl
    rw [Intake.receive, Entry.lookup_setNamed, holds.findings]
    by_cases same : sought = file
    · rw [if_pos same, same, if_pos ⟨List.mem_append_right _ List.mem_cons_self, isRead⟩]
    · rw [if_neg same]
      refine if_congr (and_congr_left fun _ => ?_) rfl rfl
      rw [List.mem_append, List.mem_singleton]
      exact (or_iff_left same).symm
  texts path sought := by
    rw [Intake.receive, Entry.lookup_setNamed]
    by_cases here : path = Path.resolve world.store.directory file
    · -- Every file with this absolute path has the text that was put in.
      rw [if_pos here, Option.some_inj]
      constructor
      · rintro rfl
        exact ⟨file, List.mem_append_right _ List.mem_cons_self, here.symm, read⟩
      · rintro ⟨other, -, resolved, otherRead⟩
        exact text_eq_of_resolve_eq (here.symm.trans resolved.symm) read otherRead
    · rw [if_neg here, holds.texts]
      constructor
      · rintro ⟨other, member, known⟩
        exact ⟨other, List.mem_append_left _ member, known⟩
      · rintro ⟨other, member, resolved, otherRead⟩
        rcases List.mem_append.mp member with early | last
        · exact ⟨other, early, resolved, otherRead⟩
        · rw [List.mem_singleton.mp last] at resolved
          exact absurd resolved.symm here
  distinctFiles := Entry.nodup_setNamed holds.distinctFiles
  distinctPaths := Entry.nodup_setNamed holds.distinctPaths

/-- Taking in files one by one gives the tables for all of them. -/
theorem Holds.exists_foldlM {order : List String}
    (holds : Holds world settings rules received intake)
    (returns : Returns world settings rules order) :
    ∃ final,
      order.foldlM (fun intake file => do
        let result ← analyzeFile world settings rules file
        return intake.receive world.store.directory file result) intake = .ok final ∧
        Holds world settings rules (received ++ order) final := by
  induction order generalizing received intake with
  | nil => exact ⟨intake, rfl, by rwa [List.append_nil]⟩
  | cons file rest ih =>
      rcases List.forall_mem_cons.mp returns with ⟨first, others⟩
      rw [List.append_cons]
      rcases analyzeFile_cases first with ⟨fault, unread, ends⟩ | ⟨text, rows, read, ends⟩
      · rw [List.foldlM_cons, ends]
        exact ih (holds.receive_unreadable unread) others
      · rw [List.foldlM_cons, ends]
        exact ih (holds.receive_analyzed read) others

end Intake

/-- The tables for files that were taken in give a report of the same files in any order. -/
theorem Intake.Holds.isReport {received : List String} {intake : Intake}
    (holds : Holds world settings rules received intake) (same : received.Perm files)
    (rulesRun : Nat) :
    IsReport world settings rules files (intake.survey files rulesRun) := by
  constructor
  · refine List.flatMap_congr fun file member => ?_
    rw [holds.findings]
    by_cases read : world.reads file = true
    · rw [if_pos ⟨same.mem_iff.mpr member, read⟩, Option.getD_some]
    · rw [if_neg fun both => read both.2, Option.getD_none,
        findingsIn_of_not_reads (Bool.eq_false_iff.mpr read)]
  · intro path text
    have distinct : (intake.texts.reverse.map Prod.fst).Nodup := by
      rw [List.map_reverse, List.nodup_reverse]
      exact holds.distinctPaths
    rw [Report.textOf?, Intake.survey, ← Entry.mem_iff_lookup distinct, List.mem_reverse,
      Entry.mem_iff_lookup holds.distinctPaths, holds.texts]
    exact exists_congr fun file => and_congr_left fun _ => same.mem_iff
  · have sameNames : (intake.findings.map Prod.fst).Perm (files.filter world.reads).eraseDups := by
      rw [List.perm_ext_iff_of_nodup holds.distinctFiles (nodup_eraseDups _)]
      intro file
      rw [List.mem_eraseDups, List.mem_filter, ← same.mem_iff, List.mem_map, Prod.exists]
      simp only [Entry.mem_iff_lookup holds.distinctFiles, holds.findings]
      constructor
      · rintro ⟨named, findings, known, rfl⟩
        by_contra absent
        rw [if_neg absent] at known
        contradiction
      · intro both
        exact ⟨file, _, if_pos both, rfl⟩
    rw [Intake.survey, ← sameNames.length_eq, List.length_map]

theorem exists_pooledSurvey {catalogue : Catalogue} {patterns : Value} {paths order : List String}
    (enabled : catalogue.enabled patterns Rule.Naming.language = .ok rules)
    (returns : Returns world settings rules (world.store.sources paths).1)
    (same : order.Perm (world.store.sources paths).1) :
    ∃ found, pooledSurvey world catalogue settings patterns paths order = .ok found ∧
      IsReport world settings rules (world.store.sources paths).1 found ∧
      found.rulesRun = rules.length := by
  have returnsInOrder : Returns world settings rules order :=
    fun file member => returns file (same.mem_iff.mp member)
  rcases Intake.holds_empty.exists_foldlM returnsInOrder with ⟨intake, ends, holds⟩
  have gathered : Intake.ofOrder world settings rules order = .ok intake := ends
  rw [pooledSurvey, enabled]
  simp only [bind, Except.bind, gathered]
  exact ⟨_, rfl, holds.isReport same rules.length, rfl⟩

/-- A report of files is determined by the files. -/
theorem IsReport.agree {files : List String} {left right : Survey}
    (leftReport : IsReport world settings rules files left)
    (rightReport : IsReport world settings rules files right) :
    left.findings = right.findings ∧
      (∀ path, Report.textOf? left.texts path = Report.textOf? right.texts path) ∧
      left.filesScanned = right.filesScanned := by
  refine ⟨leftReport.findings.trans rightReport.findings.symm, ?_,
    leftReport.filesScanned.trans rightReport.filesScanned.symm⟩
  intro path
  ext text
  rw [leftReport.texts, rightReport.texts]

/--
Where the work on each file comes to an end, be it that it cannot be read, the survey ends
with a report of the files, and a pool gives the same survey, whatever the number of its
workers and the order in which it takes the files in.
-/
theorem pooledSurvey_agrees {catalogue : Catalogue} {patterns : Value} {paths : List String}
    (enabled : catalogue.enabled patterns Rule.Naming.language = .ok rules)
    (returns : Returns world settings rules (world.store.sources paths).1) :
    ∃ found, survey world catalogue settings patterns paths = .ok found ∧
      IsReport world settings rules (world.store.sources paths).1 found ∧
      ∀ order,
        (order.Perm (world.store.sources paths).1 ∨
          ∃ workers, Pool.Delivers workers (world.store.sources paths).1 order) →
        ∃ pooled, pooledSurvey world catalogue settings patterns paths order = .ok pooled ∧
          pooled.findings = found.findings ∧
          (∀ path, Report.textOf? pooled.texts path = Report.textOf? found.texts path) ∧
          pooled.filesScanned = found.filesScanned ∧ pooled.rulesRun = found.rulesRun := by
  rcases exists_survey enabled returns with ⟨found, surveyed, report, count⟩
  refine ⟨found, surveyed, report, ?_⟩
  intro order possible
  have same : order.Perm (world.store.sources paths).1 := by
    rcases possible with same | ⟨workers, delivers⟩
    · exact same
    · exact delivers.perm
  rcases exists_pooledSurvey enabled returns same with
    ⟨pooled, pooledSurveyed, pooledReport, pooledCount⟩
  rcases pooledReport.agree report with ⟨findings, texts, filesScanned⟩
  exact ⟨pooled, pooledSurveyed, findings, texts, filesScanned, pooledCount.trans count.symm⟩

end Surveying

end CasingLint.CommandLine

namespace CasingLint

open CasingLint.Text

namespace Sample

/-- The sample world with two more files: the octets of one are no text, the other is locked. -/
def brokenWorld : CommandLine.World :=
  { world with
    store :=
      { root := world.store.root ++
          [("c.cs", .file (.ok [0xff])), ("d.cs", .file (.error ⟨13, "Permission denied"⟩))] } }

/-- Two paths of one file, two files that cannot be read and one more file. -/
def mixedPaths : List String :=
  ["a.cs", "./a.cs", "c.cs", "d.cs", "b.cs"]

end Sample

namespace CommandLine

/-- Two workers with the files of the sample: the first file is the last one to be done. -/
theorem pooledSurvey_agrees_sample :
    Sample.catalogue.enabled Settings.default.enabledRules Rule.Naming.language =
        .ok [Rule.naming] ∧
      Returns Sample.brokenWorld .default [Rule.naming] Sample.mixedPaths ∧
      Sample.brokenWorld.store.readText "d.cs" =
        .error (.refused ⟨13, "Permission denied"⟩ "d.cs") ∧
      Pool.Delivers 2 Sample.mixedPaths ["c.cs", "d.cs", "./a.cs", "b.cs", "a.cs"] ∧
      ∃ found,
        survey Sample.brokenWorld Sample.catalogue .default Settings.default.enabledRules
            Sample.mixedPaths = .ok found ∧
          found.findings.map Finding.suggestion? =
            [some ⟨6, 11, "Été"⟩, some ⟨18, 21, "_baz"⟩, some ⟨34, 37, "Bar"⟩,
              some ⟨6, 11, "Été"⟩, some ⟨18, 21, "_baz"⟩, some ⟨34, 37, "Bar"⟩,
              some ⟨6, 9, "Foo"⟩] ∧
          found.filesScanned = 3 ∧
          ∃ pooled,
            pooledSurvey Sample.brokenWorld Sample.catalogue .default
                Settings.default.enabledRules Sample.mixedPaths
                ["c.cs", "d.cs", "./a.cs", "b.cs", "a.cs"] = .ok pooled ∧
              pooled.findings = found.findings ∧
              (∀ path, Report.textOf? pooled.texts path = Report.textOf? found.texts path) ∧
              pooled.filesScanned = found.filesScanned ∧ pooled.rulesRun = found.rulesRun := by
  have enabled : Sample.catalogue.enabled Settings.default.enabledRules Rule.Naming.language =
      .ok [Rule.naming] := by
    rfl
  have listed : (Sample.brokenWorld.store.sources Sample.mixedPaths).1 = Sample.mixedPaths := by
    decide +kernel
  have returns : Returns Sample.brokenWorld .default [Rule.naming] Sample.mixedPaths := by
    have ends : ∀ file ∈ Sample.mixedPaths,
        (analyzeFile Sample.brokenWorld .default [Rule.naming] file).isOk = true := by
      decide +kernel
    exact fun file member => Outcome.isOk_iff.mp (ends file member)
  have delivers : Pool.Delivers 2 Sample.mixedPaths ["c.cs", "d.cs", "./a.cs", "b.cs", "a.cs"] := by
    refine .head (.start (by decide)) (.head (.start (by decide)) ?_)
    refine .head (@Pool.Step.finish 2 "./a.cs" _ [] ["a.cs"] _ _) (.head (.start (by decide)) ?_)
    refine .head (@Pool.Step.finish 2 "c.cs" _ [] ["a.cs"] _ _) (.head (.start (by decide)) ?_)
    refine .head (@Pool.Step.finish 2 "d.cs" _ [] ["a.cs"] _ _) (.head (.start (by decide)) ?_)
    refine .head (@Pool.Step.receive 2 "c.cs" _ _ ["d.cs"] ["./a.cs"] _) ?_
    refine .head (@Pool.Step.receive 2 "d.cs" _ _ [] ["./a.cs"] _) ?_
    refine .head (@Pool.Step.receive 2 "./a.cs" _ _ [] [] _) ?_
    refine .head (@Pool.Step.finish 2 "b.cs" _ [] ["a.cs"] _ _) ?_
    refine .head (@Pool.Step.receive 2 "b.cs" _ _ [] [] _) ?_
    refine .head (@Pool.Step.finish 2 "a.cs" _ [] [] _ _) ?_
    exact .single (@Pool.Step.receive 2 "a.cs" _ _ [] [] _)
  rw [← listed] at returns delivers
  rcases pooledSurvey_agrees enabled returns with ⟨found, surveyed, report, agrees⟩
  rcases agrees _ (Or.inr ⟨2, delivers⟩) with ⟨pooled, pooledSurveyed, same⟩
  rw [listed] at returns delivers report
  refine ⟨enabled, returns, rfl, delivers, found, surveyed, ?_, ?_, pooled, pooledSurveyed, same⟩
  · rw [report.findings]
    decide +kernel
  · rw [report.filesScanned]
    decide +kernel

end CommandLine

end CasingLint
