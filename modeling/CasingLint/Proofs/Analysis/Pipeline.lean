import CasingLint.Proofs.Analysis

/-!
# The analysis as a pipeline

A rule reports its findings one after the other and may give up at any point.  Its
findings count only if it does not.  What the analysis of a file gives is then described
without the steps that it takes: the findings of the visits that run to their end, each
with the severity that the settings give to its rule, as far as they reach the threshold
and are not suppressed on their line, and of these as many as the cap allows.

The result depends on the rules through the selected findings alone.  So it does not
change if the rules that give up are left out, or if the others are kept from reporting
what is not selected: neither takes anything away from the cap.
-/

namespace CasingLint

open CasingLint.Text

/-! ## Visits that may give up -/

/-- How a visit goes on: it ends, gives up, or reports a finding and goes on. -/
inductive Course where
  | ends
  | givesUp (fault : Fault)
  | reports (finding : Finding) (rest : Course)

namespace Course

/-- The findings that are reported, also those before a visit gives up. -/
def reported : Course → List Finding
  | ends => []
  | givesUp _ => []
  | reports finding rest => finding :: rest.reported

/-- Does the visit run to its end? -/
def completes : Course → Bool
  | ends => true
  | givesUp _ => false
  | reports _ rest => rest.completes

/-- The list of all findings, for which the visit has to run to its end. -/
def collect : Course → Except Fault (List Finding)
  | ends => .ok []
  | givesUp fault => .error fault
  | reports finding rest => rest.collect.map (finding :: ·)

/-- The same visit without the findings that are not to be kept. -/
def only (keep : Finding → Bool) : Course → Course
  | ends => ends
  | givesUp fault => givesUp fault
  | reports finding rest =>
    if keep finding then reports finding (rest.only keep) else rest.only keep

/-- A visit that reports the findings of a list. -/
def ofList : List Finding → Course
  | [] => ends
  | finding :: rest => reports finding (ofList rest)

/-- A visit with the given outcome. -/
def ofOutcome : Except Fault (List Finding) → Course
  | .ok findings => ofList findings
  | .error fault => givesUp fault

theorem collect_ofList (findings : List Finding) :
    (ofList findings).collect = .ok findings := by
  induction findings with
  | nil => rfl
  | cons finding rest ih =>
      rw [ofList, collect, ih]
      rfl

theorem completes_ofList (findings : List Finding) :
    (ofList findings).completes = true := by
  induction findings with
  | nil => rfl
  | cons finding rest ih => exact ih

theorem reported_ofList (findings : List Finding) :
    (ofList findings).reported = findings := by
  induction findings with
  | nil => rfl
  | cons finding rest ih => rw [ofList, reported, ih]

theorem collect_ofOutcome (outcome : Except Fault (List Finding)) :
    (ofOutcome outcome).collect = outcome := by
  cases outcome with
  | ok findings => exact collect_ofList findings
  | error fault => rfl

theorem collect_of_completes {course : Course} (completes : course.completes = true) :
    course.collect = .ok course.reported := by
  induction course with
  | ends => rfl
  | givesUp fault => contradiction
  | reports finding rest ih =>
      rw [collect, ih completes]
      rfl

/-- Whatever was reported before a visit gives up, collecting it is a fault. -/
theorem exists_collect_of_not_completes {course : Course} (breaks : course.completes = false) :
    ∃ fault, course.collect = .error fault := by
  induction course with
  | ends => contradiction
  | givesUp fault => exact ⟨fault, rfl⟩
  | reports finding rest ih =>
      rcases ih breaks with ⟨fault, fails⟩
      refine ⟨fault, ?_⟩
      rw [collect, fails]
      rfl

theorem completes_only (keep : Finding → Bool) (course : Course) :
    (course.only keep).completes = course.completes := by
  induction course with
  | ends => rfl
  | givesUp fault => rfl
  | reports finding rest ih =>
      rw [only, completes]
      split
      · exact ih
      · exact ih

theorem reported_only (keep : Finding → Bool) (course : Course) :
    (course.only keep).reported = course.reported.filter keep := by
  induction course with
  | ends => rfl
  | givesUp fault => rfl
  | reports finding rest ih =>
      rw [only, reported, List.filter_cons]
      split
      · rw [reported, ih]
      · exact ih

end Course

/-- A rule that reports as it goes along. -/
structure Visitor where
  id : String
  languages : List String
  course : RuleContext → Course

namespace Visitor

/-- The rule that collects what the visitor reports. -/
def rule (visitor : Visitor) : Rule where
  id := visitor.id
  languages := visitor.languages
  visit context := (visitor.course context).collect

/-- Every rule collects what some visitor reports, so that visitors stand for all rules. -/
theorem rule_surjective : Function.Surjective rule := by
  rintro ⟨id, languages, visit⟩
  refine ⟨⟨id, languages, fun context => .ofOutcome (visit context)⟩, ?_⟩
  rw [rule, Rule.mk.injEq]
  refine ⟨rfl, rfl, ?_⟩
  ext context : 1
  exact Course.collect_ofOutcome (visit context)

end Visitor

/-! ## What is selected -/

/-- The place of a severity among the three words, where anything else stands lowest. -/
def Settings.standing (severity : Value) : Nat :=
  match severity with
  | .text "error" => 2
  | .text "warn" => 1
  | _ => 0

/-- The whole number that a value stands for, as a truth value does too. -/
def Value.wholeNumber? : Value → Option Int
  | .int number => some number
  | .bool truth => some (if truth then 1 else 0)
  | _ => none

/-- Settings whose fields are of the kinds that an analysis needs, with a cap. -/
structure Settings.IsRunnable (settings : Settings) (cap : Int) : Prop where
  options : ∃ entries, settings.options = .map entries
  severities : ∃ entries, settings.severities = .map entries
  threshold : settings.threshold.isHashable = true
  cap : settings.maxFindings.wholeNumber? = some cap

namespace Analysis

/-- Does the severity of a finding reach the threshold? -/
def reaches (settings : Settings) (finding : Finding) : Bool :=
  decide (Settings.standing settings.threshold ≤ Settings.standing finding.severity)

/-- Does a finding reach the threshold, without being suppressed on its line? -/
def admits (settings : Settings) (text : String) (finding : Finding) : Bool :=
  reaches settings finding && !Suppression.isSuppressed text finding.rule finding.start

/-- A finding with the severity that the settings give to its rule, unless that is empty. -/
def grade (settings : Settings) (visitor : Visitor) (finding : Finding) : Finding :=
  let given? := (settings.severities.field? visitor.id).filter Value.isTruthy
  { finding with severity := given?.getD finding.severity }

/-- The visit of a visitor with the options that the settings hold for its rule. -/
def courseOf (settings : Settings) (context : Value → RuleContext) (visitor : Visitor) : Course :=
  visitor.course (context ((settings.options.field? visitor.id).getD (.map [])))

/-- The visitors whose visits run to their end. -/
def completing (settings : Settings) (context : Value → RuleContext) (visitors : List Visitor) :
    List Visitor :=
  visitors.filter fun visitor => (courseOf settings context visitor).completes

/-- All findings of the visits that run to their end, in order, with their severities. -/
def graded (settings : Settings) (context : Value → RuleContext) (visitors : List Visitor) :
    List Finding :=
  (completing settings context visitors).flatMap fun visitor =>
    (courseOf settings context visitor).reported.map (grade settings visitor)

/-- The findings that an analysis selects, before the cap. -/
def selected (settings : Settings) (text : String) (context : Value → RuleContext)
    (visitors : List Visitor) : List Finding :=
  (graded settings context visitors).filter (admits settings text)

/-- Cut to a cap: a first part, which is everything if that fits, and else as much as fits. -/
structure IsCut (cap : Int) (all kept : List Finding) : Prop where
  first : kept <+: all
  whole : (all.length : Int) ≤ cap → kept = all
  full : 0 ≤ cap → cap < all.length → (kept.length : Int) = cap

/-- The visitor that reports nothing but what the analysis admits. -/
def admitted (settings : Settings) (text : String) (visitor : Visitor) : Visitor :=
  { visitor with
    course := fun context =>
      (visitor.course context).only fun finding =>
        admits settings text (grade settings visitor finding) }

end Analysis

/-! ## Each step on runnable settings -/

theorem Settings.rank_of_isHashable {severity : Value} (hashable : severity.isHashable = true) :
    rank severity = .ok (standing severity) := by
  rw [rank.eq_def]
  split
  · rfl
  · rfl
  · rename_i notWarn notError
    rw [Option.isNone_iff_eq_none.mp hashable]
    simp only [standing]

theorem Value.cases_of_wholeNumber? {value : Value} {number : Int}
    (whole : value.wholeNumber? = some number) :
    value = .int number ∨ ∃ truth, value = .bool truth ∧ number = if truth then 1 else 0 := by
  cases value with
  | int given =>
      cases whole
      exact Or.inl rfl
  | bool truth =>
      cases whole
      exact Or.inr ⟨truth, rfl, rfl⟩
  | _ => contradiction

theorem Value.getText_of_map {value : Value} (isMap : ∃ entries, value = .map entries)
    (key : String) :
    value.getText key = .ok (value.field? key) := by
  rcases isMap with ⟨entries, rfl⟩
  rfl

namespace Analysis

theorem withSeverity_eq (settings : Settings) (visitor : Visitor) :
    withSeverity (settings.severities.field? visitor.id) = grade settings visitor := by
  ext finding : 1
  rw [grade]
  cases settings.severities.field? visitor.id with
  | none => rfl
  | some severity =>
      rw [withSeverity, Option.filter_some]
      cases severity.isTruthy with
      | true => rfl
      | false => rfl

section Steps

variable {settings : Settings} {cap : Int} (runnable : settings.IsRunnable cap)
include runnable

theorem optionsFor_eq (id : String) :
    settings.optionsFor id = .ok ((settings.options.field? id).getD (.map [])) := by
  rw [Settings.optionsFor, Value.getText_of_map runnable.options]
  rfl

theorem aboveThreshold_eq {findings : List Finding}
    (hashable : ∀ finding ∈ findings, finding.severity.isHashable = true) :
    aboveThreshold settings findings = .ok (findings.filter (reaches settings)) := by
  apply Outcome.filterM_eq_filter
  intro finding member
  rw [Settings.meets, Settings.rank_of_isHashable (hashable finding member),
    Settings.rank_of_isHashable runnable.threshold]
  rfl

/-- A visit that runs to its end gives those of its findings that reach the threshold. -/
theorem runRule_of_completes {context : Value → RuleContext} {visitor : Visitor}
    (completes : (courseOf settings context visitor).completes = true)
    (hashable : ∀ finding ∈ (courseOf settings context visitor).reported.map
      (grade settings visitor), finding.severity.isHashable = true) :
    runRule settings context visitor.rule =
      .ok (((courseOf settings context visitor).reported.map (grade settings visitor)).filter
        (reaches settings), []) := by
  have visited : visitor.rule.visit
      (context ((settings.options.field? visitor.rule.id).getD (.map []))) =
        .ok (courseOf settings context visitor).reported :=
    Course.collect_of_completes completes
  have regraded : withSeverity (settings.severities.field? visitor.rule.id) =
      grade settings visitor :=
    withSeverity_eq settings visitor
  rw [runRule, optionsFor_eq runnable, Settings.severity?,
    Value.getText_of_map runnable.severities]
  simp only [bind, Except.bind, visited, regraded, aboveThreshold_eq runnable hashable]
  rfl

/-- A visit that gives up gives nothing, whatever it has reported before. -/
theorem runRule_of_not_completes {context : Value → RuleContext} {visitor : Visitor}
    (breaks : (courseOf settings context visitor).completes = false) :
    ∃ rows, runRule settings context visitor.rule = .ok ([], rows) := by
  rcases Course.exists_collect_of_not_completes breaks with ⟨fault, fails⟩
  have visited : visitor.rule.visit
      (context ((settings.options.field? visitor.rule.id).getD (.map []))) = .error fault :=
    fails
  rw [runRule, optionsFor_eq runnable]
  simp only [bind, Except.bind, visited]
  exact ⟨_, rfl⟩

/-- All visits together give those of the graded findings that reach the threshold. -/
theorem exists_runRules {context : Value → RuleContext} {visitors : List Visitor}
    (hashable : ∀ finding ∈ graded settings context visitors, finding.severity.isHashable = true) :
    ∃ rows, runRules settings context (visitors.map Visitor.rule) =
      .ok ((graded settings context visitors).filter (reaches settings), rows) := by
  induction visitors with
  | nil => exact ⟨[], rfl⟩
  | cons visitor others ih =>
      rw [List.map_cons, runRules]
      cases ends : (courseOf settings context visitor).completes with
      | false =>
          have same : graded settings context (visitor :: others) =
              graded settings context others := by
            rw [graded, completing, List.filter_cons, ends]
            rfl
          rw [same] at hashable ⊢
          rcases runRule_of_not_completes runnable ends with ⟨rows, runs⟩
          rcases ih hashable with ⟨otherRows, runOthers⟩
          rw [runs, runOthers]
          exact ⟨rows ++ otherRows, rfl⟩
      | true =>
          have more : graded settings context (visitor :: others) =
              (courseOf settings context visitor).reported.map (grade settings visitor) ++
                graded settings context others := by
            rw [graded, completing, List.filter_cons, ends]
            rfl
          rw [more] at hashable ⊢
          rcases List.forall_mem_append.mp hashable with ⟨own, rest⟩
          rcases ih rest with ⟨otherRows, runOthers⟩
          rw [runRule_of_completes runnable ends own, runOthers, List.filter_append]
          exact ⟨[] ++ otherRows, rfl⟩

end Steps

theorem unsuppressed_filter (settings : Settings) (text : String) (findings : List Finding) :
    unsuppressed text (findings.filter (reaches settings)) =
      findings.filter (admits settings text) := by
  rw [unsuppressed, List.filter_filter]
  refine List.filter_congr fun finding _ => ?_
  exact Bool.and_comm _ _

/-- The first items of a list, a negative number of them being counted from its end. -/
theorem isCut_firstItems {cap : Int} {findings : List Finding}
    (exceeded : cap < findings.length) :
    IsCut cap findings (firstItems cap findings) := by
  constructor
  · rw [firstItems]
    split
    · exact List.take_prefix _ _
    · exact List.take_prefix _ _
  · intro fits
    exact absurd exceeded (Int.not_lt.mpr fits)
  · intro notNegative _
    rw [firstItems, if_neg (Int.not_lt.mpr notNegative), List.length_take]
    omega

theorem isCut_self {cap : Int} {findings : List Finding} (fits : ¬ cap < findings.length) :
    IsCut cap findings findings := by
  constructor
  · exact List.prefix_rfl
  · intro _
    rfl
  · intro _ exceeded
    contradiction

/-- Findings cut to a cap, where only more than the cap allows are cut. -/
def cutTo (cap : Int) (findings : List Finding) : List Finding :=
  if cap < findings.length then firstItems cap findings else findings

theorem isCut_cutTo (cap : Int) (findings : List Finding) :
    IsCut cap findings (cutTo cap findings) := by
  rw [cutTo]
  split
  · rename_i exceeded
    exact isCut_firstItems exceeded
  · rename_i fits
    exact isCut_self fits

theorem exceeds_of_wholeNumber? {value : Value} {cap : Int} (whole : value.wholeNumber? = some cap)
    (count : Nat) :
    exceeds count value = .ok (decide (cap < count)) := by
  rcases Value.cases_of_wholeNumber? whole with rfl | ⟨truth, rfl, rfl⟩
  · rfl
  · cases truth with
    | true =>
        rw [exceeds, Except.ok.injEq, decide_eq_decide]
        exact Int.ofNat_lt.symm
    | false =>
        rw [exceeds, Except.ok.injEq, decide_eq_decide]
        exact Int.ofNat_lt.symm

theorem cut_of_wholeNumber? {value : Value} {cap : Int} (whole : value.wholeNumber? = some cap)
    (findings : List Finding) :
    cut findings value = .ok (firstItems cap findings) := by
  rcases Value.cases_of_wholeNumber? whole with rfl | ⟨truth, rfl, rfl⟩
  · rfl
  · cases truth with
    | true => rfl
    | false => rfl

theorem exists_capped {settings : Settings} {cap : Int} (runnable : settings.IsRunnable cap)
    (file : String) (findings : List Finding) :
    ∃ rows, capped settings file findings = .ok (cutTo cap findings, rows) := by
  rw [capped, exceeds_of_wholeNumber? runnable.cap, cutTo]
  by_cases exceeded : cap < findings.length
  · rw [decide_eq_true exceeded, if_pos exceeded, cut_of_wholeNumber? runnable.cap]
    exact ⟨_, rfl⟩
  · rw [decide_eq_false exceeded, if_neg exceeded]
    exact ⟨_, rfl⟩

/-- An analysis with runnable settings gives the selected findings, cut to the cap. -/
theorem exists_analyze {settings : Settings} {cap : Int} (runnable : settings.IsRunnable cap)
    (file text : String) (tree : SyntaxTree) {visitors : List Visitor}
    (hashable : ∀ finding ∈ graded settings (Rule.Naming.contextOf text tree file) visitors,
      finding.severity.isHashable = true) :
    ∃ rows, analyze settings (visitors.map Visitor.rule) file text tree =
      .ok (cutTo cap
        (selected settings text (Rule.Naming.contextOf text tree file) visitors), rows) := by
  have steps : analyze settings (visitors.map Visitor.rule) file text tree =
      runRules settings (Rule.Naming.contextOf text tree file) (visitors.map Visitor.rule) >>=
        fun found => capped settings file (unsuppressed text found.1) >>=
          fun kept => .ok (kept.1, found.2 ++ kept.2) := rfl
  rcases exists_runRules runnable hashable with ⟨rows, runs⟩
  rcases exists_capped runnable file
    (selected settings text (Rule.Naming.contextOf text tree file) visitors) with ⟨cutRows, ends⟩
  refine ⟨rows ++ cutRows, ?_⟩
  rw [steps, runs]
  simp only [bind, Except.bind, unsuppressed_filter]
  rw [selected] at ends
  rw [ends]
  rfl

/-! ## Visitors that do not matter -/

theorem completing_completing (settings : Settings) (context : Value → RuleContext)
    (visitors : List Visitor) :
    completing settings context (completing settings context visitors) =
      completing settings context visitors := by
  rw [completing, completing, List.filter_filter]
  simp only [Bool.and_self]

theorem graded_completing (settings : Settings) (context : Value → RuleContext)
    (visitors : List Visitor) :
    graded settings context (completing settings context visitors) =
      graded settings context visitors := by
  rw [graded, completing_completing]
  rfl

theorem graded_admitted (settings : Settings) (text : String) (context : Value → RuleContext)
    (visitors : List Visitor) :
    graded settings context (visitors.map (admitted settings text)) =
      selected settings text context visitors := by
  have same : ∀ visitor,
      (courseOf settings context (admitted settings text visitor)).completes =
        (courseOf settings context visitor).completes :=
    fun visitor => Course.completes_only _ _
  rw [selected, graded, graded, completing, completing, List.filter_map, List.flatMap_map,
    List.filter_flatMap]
  simp only [Function.comp_def, same]
  refine List.flatMap_congr fun visitor _ => ?_
  rw [List.filter_map]
  exact congrArg (List.map (grade settings visitor)) (Course.reported_only _ _)

theorem selected_admitted (settings : Settings) (text : String) (context : Value → RuleContext)
    (visitors : List Visitor) :
    selected settings text context (visitors.map (admitted settings text)) =
      selected settings text context visitors := by
  rw [selected, graded_admitted, selected, List.filter_filter]
  simp only [Bool.and_self]

/--
An analysis with runnable settings gives the selected findings, cut to the cap.  It gives the
same without the visitors that give up, and if the others report only what is admitted.
-/
theorem analyze_isPipeline {settings : Settings} {cap : Int} (runnable : settings.IsRunnable cap)
    (file text : String) (tree : SyntaxTree) (visitors : List Visitor)
    (hashable : ∀ finding ∈ graded settings (Rule.Naming.contextOf text tree file) visitors,
      finding.severity.isHashable = true) :
    ∃ kept,
      IsCut cap (selected settings text (Rule.Naming.contextOf text tree file) visitors) kept ∧
        (∃ rows, analyze settings (visitors.map Visitor.rule) file text tree =
          .ok (kept, rows)) ∧
        (∃ rows, analyze settings
          ((completing settings (Rule.Naming.contextOf text tree file) visitors).map
            Visitor.rule) file text tree = .ok (kept, rows)) ∧
        ∃ rows, analyze settings ((visitors.map (admitted settings text)).map Visitor.rule)
          file text tree = .ok (kept, rows) := by
  refine ⟨_, isCut_cutTo cap _, exists_analyze runnable file text tree hashable, ?_, ?_⟩
  · rw [← graded_completing] at hashable
    have runs := exists_analyze runnable file text tree hashable
    rw [selected, graded_completing] at runs
    exact runs
  · have hashableAdmitted : ∀ finding ∈ graded settings (Rule.Naming.contextOf text tree file)
        (visitors.map (admitted settings text)), finding.severity.isHashable = true := by
      intro finding member
      rw [graded_admitted] at member
      exact hashable finding (List.mem_of_mem_filter member)
    have runs := exists_analyze runnable file text tree hashableAdmitted
    rw [selected_admitted] at runs
    exact runs

end Analysis

namespace Sample

/-- Settings with a cap, a threshold and a severity for one of the rules. -/
def strictSettings : Settings where
  maxFindings := .int 2
  threshold := .text "warn"
  severities := .record [("strict", .text "error")]

/-- A text that suppresses that rule on its second line, which starts at octet 10. -/
def suppressingText : String :=
  "class C \x7b\n\x7d // namecheck: ignore[strict]\n"

/-- The syntax tree of the text with a suppression. -/
def suppressingTree : SyntaxTree :=
  plain "compilation_unit" 0 41 [
    plain "class_declaration" 0 11 [
      plain "class" 0 5 [],
      name 6 7,
      plain "declaration_list" 8 11 [plain "\x7b" 8 9 [], plain "\x7d" 10 11 []]],
    plain "comment" 12 40 []]

/-- What the visitors of the sample get to see. -/
def shown : Value → RuleContext :=
  Rule.Naming.contextOf suppressingText suppressingTree "sample.cs"

/-- A finding of a rule at an octet, with its message and severity. -/
def report (rule message severity : String) (start : Int) : Finding where
  rule := rule
  message := message
  file := "sample.cs"
  start := start
  stop := start
  severity := .text severity

/-- Three visitors, the second of which gives up after its first finding. -/
def visitors : List Visitor := [
  ⟨"mild", [], fun _ => .ofList [report "mild" "one" "info" 0, report "mild" "two" "warn" 0]⟩,
  ⟨"broken", [], fun _ => .reports (report "broken" "three" "error" 0) (.givesUp .notIndex)⟩,
  ⟨"strict", [], fun _ => .ofList [
    report "strict" "four" "info" 0, report "strict" "five" "info" 10,
    report "strict" "six" "other" 0]⟩]

end Sample

/-- Three of the six findings of the sample are selected, and two of them are kept. -/
theorem Analysis.analyze_isPipeline_sample :
    Sample.strictSettings.IsRunnable 2 ∧
      (∀ finding ∈ graded Sample.strictSettings Sample.shown Sample.visitors,
        finding.severity.isHashable = true) ∧
      (selected Sample.strictSettings Sample.suppressingText Sample.shown Sample.visitors).map
          Finding.message =
        ["two", "four", "six"] ∧
      ∃ kept,
        IsCut 2 (selected Sample.strictSettings Sample.suppressingText Sample.shown
          Sample.visitors) kept ∧
          (∃ rows, analyze Sample.strictSettings (Sample.visitors.map Visitor.rule) "sample.cs"
            Sample.suppressingText Sample.suppressingTree = .ok (kept, rows)) ∧
          (∃ rows, analyze Sample.strictSettings
            ((completing Sample.strictSettings Sample.shown Sample.visitors).map Visitor.rule)
            "sample.cs" Sample.suppressingText Sample.suppressingTree = .ok (kept, rows)) ∧
          ∃ rows, analyze Sample.strictSettings
            ((Sample.visitors.map
              (admitted Sample.strictSettings Sample.suppressingText)).map Visitor.rule)
            "sample.cs" Sample.suppressingText Sample.suppressingTree = .ok (kept, rows) := by
  have runnable : Sample.strictSettings.IsRunnable 2 := ⟨⟨_, rfl⟩, ⟨_, rfl⟩, rfl, rfl⟩
  have hashable : ∀ finding ∈ graded Sample.strictSettings Sample.shown Sample.visitors,
      finding.severity.isHashable = true := by
    decide +kernel
  exact ⟨runnable, hashable, by decide +kernel,
    analyze_isPipeline runnable "sample.cs" Sample.suppressingText Sample.suppressingTree
      Sample.visitors hashable⟩

end CasingLint
