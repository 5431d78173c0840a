import CasingLint.Catalogue
import CasingLint.Proofs.Analysis.Pipeline
import CasingLint.Proofs.Settings.Merge

/-!
# Settings that can be run with

Loading checks the names of the fields and the sections of single rules, but not what the
other fields hold.  A value of a wrong kind is met only when it is used: while the rules
are selected, when a severity is looked up, when the findings are counted, or by the naming
rule, which then gives up.  So there are settings that load and cannot be run with.  This
module says which can: those that fit, whatever the rules, the text and its tree are.
-/

namespace CasingLint

open CasingLint.Text Outcome

/-- Are the severities that a rule reports fit for a look-up? -/
def Rule.IsSound (rule : Rule) : Prop :=
  ∀ context findings, rule.visit context = .ok findings →
    ∀ finding ∈ findings, finding.severity.isHashable = true

/-- Can patterns be tried on an identifier?  All are texts, up to the first that matches it. -/
def Catalogue.CanTry (id : String) (patterns : List Value) : Prop :=
  ∀ front value back, patterns = front ++ value :: back →
    (∀ pattern, .text pattern ∈ front → Glob.isMatch pattern id = false) →
      ∃ pattern, value = .text pattern

/-- Can a number of findings be held against a cap, and be cut to it where it exceeds it? -/
def Value.CapsAt (cap : Value) (count : Nat) : Prop :=
  (∃ number, cap.wholeNumber? = some number) ∨
    ∃ bound, cap = .float bound ∧ bound.isBelow count = false

/-- Can a value be read as a set?  It is empty, or its elements are fit for one. -/
def Value.IsSettable (value : Value) : Prop :=
  value.isTruthy = true →
    ∃ elements, value.elements = .ok elements ∧
      ∀ element ∈ elements, element.isHashable = true

namespace Settings

/--
Do the settings carry the analysis of a text?  The rules are selected, the analysis ends with
findings, and the naming rule, if it is selected, does not give up.
-/
def Carries (settings : Settings) (catalogue : Catalogue) (file text : String)
    (tree : SyntaxTree) : Prop :=
  ∃ rules, catalogue.enabled settings.enabledRules Rule.Naming.language = .ok rules ∧
    (∃ found, Analysis.analyze settings rules file text tree = .ok found) ∧
    (Rule.naming ∈ rules →
      ∃ findings,
        Analysis.runRule settings (Rule.Naming.contextOf text tree file) Rule.naming =
          .ok (findings, []))

/-- Can the settings be run with, whatever the rules, the text and its tree are? -/
def IsReady (settings : Settings) : Prop :=
  ∀ catalogue : Catalogue, (∀ rule ∈ catalogue.rules, rule.IsSound) →
    ∀ file text tree, tree.IsReadable (Utf8.encode text.toList) →
      settings.Carries catalogue file text tree

/-- Is a rule with this identifier selected, if there is one? -/
def Selects (settings : Settings) (id : String) : Prop :=
  ∃ patterns, settings.enabledRules.elements = .ok patterns ∧
    Catalogue.matchesAny id patterns = .ok true

/-- The severity that takes the place of what a rule reports. -/
def override? (settings : Settings) (id : String) : Option Value :=
  (settings.severities.field? id).filter Value.isTruthy

/-- Can findings of a rule reach the threshold? -/
def Admits (settings : Settings) (id : String) : Prop :=
  ∀ severity, settings.override? id = some severity →
    standing settings.threshold ≤ standing severity

/-- The options that a rule is run with. -/
def shownOptions (settings : Settings) (id : String) : Value :=
  (settings.options.field? id).getD (.map [])

/-- Settings whose values are of the kinds that a run needs where it uses them. -/
structure IsFit (settings : Settings) : Prop where
  patterns : ∃ patterns, settings.enabledRules.elements = .ok patterns ∧
    ∀ id, Catalogue.CanTry id patterns
  threshold : ∀ id, settings.Selects id → settings.threshold.isHashable = true
  severities : ∀ id, settings.Selects id →
    ∀ severity, settings.override? id = some severity → severity.isHashable = true
  cap : ∀ count, (count = 0 ∨ ∃ id, settings.Selects id ∧ settings.Admits id) →
    settings.maxFindings.CapsAt count
  skipped : settings.Selects Rule.Naming.id →
    ∀ kinds, (settings.shownOptions Rule.Naming.id).field? "skip_kinds" = some kinds →
      kinds.IsSettable

/-- Settings whose values are of the declared kinds. -/
structure IsTyped (settings : Settings) : Prop where
  enabledRules : ∃ patterns : List String, settings.enabledRules = .list (patterns.map .text)
  maxFindings : ∃ number, settings.maxFindings = .int number
  threshold : ∃ word, settings.threshold = .text word
  severities : ∀ id severity, settings.severities.field? id = some severity →
    ∃ word, severity = .text word
  skipped : ∀ kinds, (settings.shownOptions Rule.Naming.id).field? "skip_kinds" = some kinds →
    ∃ labels : List String, kinds = .list (labels.map .text)

/-! ## Selecting rules -/

theorem canTry_cons_iff {id : String} {value : Value} {rest : List Value} :
    Catalogue.CanTry id (value :: rest) ↔
      ∃ pattern, value = .text pattern ∧
        (Glob.isMatch pattern id = true ∨ Catalogue.CanTry id rest) := by
  constructor
  · intro canTry
    rcases canTry [] value rest rfl (fun _ impossible => nomatch impossible) with ⟨pattern, rfl⟩
    refine ⟨pattern, rfl, ?_⟩
    cases isMatch : Glob.isMatch pattern id with
    | true => exact Or.inl rfl
    | false =>
        refine Or.inr ?_
        intro front later back split unmatched
        refine canTry (.text pattern :: front) later back (congrArg _ split) ?_
        intro other member
        rcases List.mem_cons.mp member with same | among
        · cases same
          exact isMatch
        · exact unmatched other among
  · rintro ⟨pattern, rfl, isMatch⟩ front later back split unmatched
    cases front with
    | nil =>
        cases split
        exact ⟨pattern, rfl⟩
    | cons first front =>
        cases split
        rcases isMatch with matched | canTry
        · rw [unmatched pattern List.mem_cons_self] at matched
          cases matched
        · exact canTry front later back rfl fun other among =>
            unmatched other (List.mem_cons_of_mem _ among)

/-- Patterns are tried on an identifier without a fault exactly if they can be. -/
theorem exists_matchesAny_iff {id : String} {patterns : List Value} :
    (∃ isMatch, Catalogue.matchesAny id patterns = .ok isMatch) ↔
      Catalogue.CanTry id patterns := by
  induction patterns with
  | nil =>
      refine iff_of_true ⟨false, rfl⟩ ?_
      intro front value back split
      cases List.append_ne_nil_of_right_ne_nil front (List.cons_ne_nil value back) split.symm
  | cons first rest ih =>
      rw [canTry_cons_iff]
      cases first with
      | text pattern =>
          rw [Catalogue.matchesAny]
          cases isMatch : Glob.isMatch pattern id with
          | true => exact iff_of_true ⟨true, rfl⟩ ⟨pattern, rfl, Or.inl isMatch⟩
          | false =>
              refine ih.trans ⟨fun canTry => ⟨pattern, rfl, Or.inr canTry⟩, ?_⟩
              rintro ⟨other, same, matched | canTry⟩
              · cases same
                rw [isMatch] at matched
                cases matched
              · exact canTry
      | _ =>
          refine iff_of_false ?_ ?_
          · rintro ⟨isMatch, impossible⟩
            cases impossible
          · rintro ⟨pattern, impossible, -⟩
            cases impossible

theorem canTry_texts (id : String) (patterns : List String) :
    Catalogue.CanTry id (patterns.map .text) := by
  intro front value back split _
  have member : value ∈ patterns.map Value.text := by
    rw [split]
    exact List.mem_append_right front List.mem_cons_self
  rcases List.mem_map.mp member with ⟨pattern, -, rfl⟩
  exact ⟨pattern, rfl⟩

theorem exists_enabled {settings : Settings} (fit : settings.IsFit) (catalogue : Catalogue) :
    ∃ rules, catalogue.enabled settings.enabledRules Rule.Naming.language = .ok rules ∧
      ∀ rule ∈ rules, rule ∈ catalogue.rules ∧ settings.Selects rule.id := by
  rcases fit.patterns with ⟨patterns, read, canTry⟩
  have tested : ∀ rule ∈ catalogue.rules,
      (if rule.languages.contains Rule.Naming.language then
        Catalogue.matchesAny rule.id patterns else .ok false) =
        .ok (rule.languages.contains Rule.Naming.language &&
          (Catalogue.matchesAny rule.id patterns).toOption.getD false) := by
    intro rule _
    rcases exists_matchesAny_iff.mpr (canTry rule.id) with ⟨isMatch, matched⟩
    rw [matched]
    cases rule.languages.contains Rule.Naming.language with
    | true => rfl
    | false => rfl
  refine ⟨_, bind_eq_ok_iff.mpr ⟨patterns, read, filterM_eq_filter tested⟩, ?_⟩
  intro rule member
  rcases List.mem_filter.mp member with ⟨among, chosen⟩
  rcases exists_matchesAny_iff.mpr (canTry rule.id) with ⟨isMatch, matched⟩
  rw [matched, Bool.and_eq_true] at chosen
  exact ⟨among, patterns, read, matched.trans (congrArg Except.ok chosen.2)⟩

/-- What is selected from a single rule of the language. -/
theorem enabled_singleton {patterns : Value} {rule : Rule}
    (speaks : rule.languages.contains Rule.Naming.language = true) :
    (Catalogue.mk [rule] []).enabled patterns Rule.Naming.language = (do
      let patterns ← patterns.elements
      let isMatch ← Catalogue.matchesAny rule.id patterns
      return if isMatch then [rule] else []) := by
  rw [Catalogue.enabled]
  congr 1
  funext elements
  rw [filterM_cons, if_pos speaks]
  rfl

theorem enabled_of_selects {settings : Settings} {rule : Rule}
    (speaks : rule.languages.contains Rule.Naming.language = true)
    (selects : settings.Selects rule.id) :
    (Catalogue.mk [rule] []).enabled settings.enabledRules Rule.Naming.language = .ok [rule] := by
  rcases selects with ⟨patterns, read, matched⟩
  rw [enabled_singleton speaks]
  exact bind_eq_ok_iff.mpr ⟨patterns, read, bind_eq_ok_iff.mpr ⟨true, matched, rfl⟩⟩

/-! ## Kinds to skip -/

theorem exists_textsOf_iff {elements : List Value} :
    (∃ labels, Rule.Naming.textsOf elements = .ok labels) ↔
      ∀ element ∈ elements, element.isHashable = true := by
  have hashable : elements.findSome? Value.unhashable? = none ↔
      ∀ element ∈ elements, element.isHashable = true := by
    simp only [List.findSome?_eq_none_iff, Value.isHashable, Option.isNone_iff_eq_none]
  rw [← hashable, Rule.Naming.textsOf]
  cases elements.findSome? Value.unhashable? with
  | none => exact iff_of_true ⟨_, rfl⟩ rfl
  | some typeName =>
      refine iff_of_false ?_ (Option.some_ne_none typeName)
      rintro ⟨labels, impossible⟩
      cases impossible

/-- The kinds to skip are read without a fault exactly if they can be read as a set. -/
theorem exists_skippedKinds_iff {options : Value} (isMap : ∃ entries, options = .map entries) :
    (∃ labels, Rule.Naming.skippedKinds options = .ok labels) ↔
      ∀ kinds, options.field? "skip_kinds" = some kinds → kinds.IsSettable := by
  have read := Value.getText_of_map isMap "skip_kinds"
  cases chosen : options.field? "skip_kinds" with
  | none =>
      rw [chosen] at read
      rw [Rule.Naming.skippedKinds, read]
      exact iff_of_true ⟨[], rfl⟩ fun kinds impossible =>
        absurd impossible.symm (Option.some_ne_none kinds)
  | some kinds =>
      have steps : Rule.Naming.skippedKinds options =
          if kinds.isTruthy then kinds.elements >>= Rule.Naming.textsOf else .ok [] := by
        rw [Rule.Naming.skippedKinds, read, chosen]
        rfl
      simp only [steps, Option.some.injEq, forall_eq', Value.IsSettable]
      cases kinds.isTruthy with
      | false => simp
      | true =>
          simp only [if_true, forall_const, bind_eq_ok_iff]
          rw [exists_comm]
          simp only [exists_and_left, exists_textsOf_iff]

/-- The options of a rule are a mapping. -/
theorem shownOptions_isMap {settings : Settings} (merged : IsMerged settings) (id : String) :
    ∃ entries, settings.shownOptions id = .map entries := by
  rcases merged.options with ⟨options, isMap, areMerged⟩
  rw [shownOptions, isMap, Value.field?]
  cases found : Value.lookup options (.text id) with
  | none => exact ⟨[], rfl⟩
  | some own =>
      rcases areMerged.each _ (Value.mem_of_lookup_eq_some found) with ⟨entries, isOwn, -⟩
      exact ⟨entries, isOwn⟩

theorem optionsFor_of_isMerged {settings : Settings} (merged : IsMerged settings) (id : String) :
    settings.optionsFor id = .ok (settings.shownOptions id) := by
  rcases merged.options with ⟨entries, isMap, -⟩
  rw [optionsFor, Value.getText_of_map ⟨entries, isMap⟩]
  rfl

/-! ## Values of the declared kinds -/

/-- Values of the declared kinds are fit for every use of them. -/
theorem IsTyped.isFit {settings : Settings} (typed : settings.IsTyped) : settings.IsFit where
  patterns := by
    rcases typed.enabledRules with ⟨patterns, isList⟩
    rw [isList]
    exact ⟨_, rfl, fun id => canTry_texts id patterns⟩
  threshold := by
    rcases typed.threshold with ⟨word, isText⟩
    rw [isText]
    exact fun _ _ => rfl
  severities := by
    intro id _ severity chosen
    rw [override?, Option.filter_eq_some_iff] at chosen
    rcases typed.severities id severity chosen.1 with ⟨word, rfl⟩
    rfl
  cap := by
    rcases typed.maxFindings with ⟨number, isInt⟩
    rw [isInt]
    exact fun _ _ => Or.inl ⟨number, rfl⟩
  skipped := by
    intro _ kinds chosen _
    rcases typed.skipped kinds chosen with ⟨labels, rfl⟩
    refine ⟨_, rfl, ?_⟩
    intro element member
    rcases List.mem_map.mp member with ⟨label, -, rfl⟩
    rfl

end Settings

namespace Analysis

open Settings

/-! ## Counting findings -/

theorem exists_capped_iff {settings : Settings} {findings : List Finding} (file : String) :
    (∃ kept, capped settings file findings = .ok kept) ↔
      settings.maxFindings.CapsAt findings.length := by
  constructor
  · rintro ⟨kept, ends⟩
    rw [capped] at ends
    rcases bind_eq_ok_iff.mp ends with ⟨exceeded, measured, endsCut⟩
    cases cap : settings.maxFindings with
    | int bound => exact Or.inl ⟨bound, rfl⟩
    | bool truth => exact Or.inl ⟨_, rfl⟩
    | float bound =>
        rw [cap] at measured endsCut
        cases measured
        refine Or.inr ⟨bound, rfl, ?_⟩
        cases below : bound.isBelow findings.length with
        | false => rfl
        | true =>
            rw [below] at endsCut
            cases endsCut
    | _ =>
        rw [cap] at measured
        cases measured
  · rintro (⟨number, whole⟩ | ⟨bound, isFloat, notBelow⟩)
    · rw [capped, exceeds_of_wholeNumber? whole]
      cases decide (number < findings.length) with
      | true =>
          rw [cut_of_wholeNumber? whole]
          exact ⟨_, rfl⟩
      | false => exact ⟨_, rfl⟩
    · rw [capped, isFloat, exceeds, notBelow]
      exact ⟨_, rfl⟩

theorem exists_analyze_iff {settings : Settings} {rules : List Rule} {file text : String}
    {tree : SyntaxTree} {found : List Finding} {rows : List Log}
    (runs : runRules settings (Rule.Naming.contextOf text tree file) rules = .ok (found, rows)) :
    (∃ kept, analyze settings rules file text tree = .ok kept) ↔
      settings.maxFindings.CapsAt (unsuppressed text found).length := by
  have steps : analyze settings rules file text tree =
      runRules settings (Rule.Naming.contextOf text tree file) rules >>= fun found =>
        capped settings file (unsuppressed text found.1) >>= fun kept =>
          .ok (kept.1, found.2 ++ kept.2) := rfl
  rw [← exists_capped_iff file, steps, runs]
  constructor
  · rintro ⟨kept, ends⟩
    rcases bind_eq_ok_iff.mp ends with ⟨_, same, endsCapped⟩
    cases same
    rcases bind_eq_ok_iff.mp endsCapped with ⟨shortened, isCapped, -⟩
    exact ⟨shortened, isCapped⟩
  · rintro ⟨shortened, isCapped⟩
    exact ⟨_, bind_eq_ok_iff.mpr ⟨_, rfl, bind_eq_ok_iff.mpr ⟨shortened, isCapped, rfl⟩⟩⟩

/-! ## Running rules -/

/-- The cap plays no part in what the rules give. -/
theorem runRules_uncapped (settings : Settings) (context : Value → RuleContext)
    (rules : List Rule) :
    runRules { settings with maxFindings := .int 0 } context rules =
      runRules settings context rules := by
  induction rules with
  | nil => rfl
  | cons rule rest ih =>
      rw [runRules, runRules, ih]
      rfl

theorem isRunnable_uncapped {settings : Settings} (merged : IsMerged settings)
    (hashable : settings.threshold.isHashable = true) :
    IsRunnable { settings with maxFindings := .int 0 } 0 where
  options := by
    rcases merged.options with ⟨entries, isMap, -⟩
    exact ⟨entries, isMap⟩
  severities := by
    rcases merged.severities with ⟨entries, isMap, -⟩
    exact ⟨entries, isMap⟩
  threshold := hashable
  cap := rfl

section Fit

variable {settings : Settings} {context : Value → RuleContext}

theorem severity_grade (visitor : Visitor) (finding : Finding) :
    (grade settings visitor finding).severity =
      (settings.override? visitor.id).getD finding.severity := rfl

theorem hashable_grade {visitor : Visitor} (sound : visitor.rule.IsSound)
    (given : ∀ severity, settings.override? visitor.id = some severity →
      severity.isHashable = true)
    (completes : (courseOf settings context visitor).completes = true) :
    ∀ finding ∈ (courseOf settings context visitor).reported.map (grade settings visitor),
      finding.severity.isHashable = true := by
  intro finding member
  rcases List.mem_map.mp member with ⟨reported, among, rfl⟩
  rw [severity_grade]
  cases chosen : settings.override? visitor.id with
  | some severity => exact given severity chosen
  | none => exact sound _ _ (Course.collect_of_completes completes) reported among

theorem exists_runRules_of_isMerged {visitors : List Visitor} (merged : IsMerged settings)
    (threshold : settings.threshold.isHashable = true)
    (sound : ∀ visitor ∈ visitors, visitor.rule.IsSound)
    (given : ∀ visitor ∈ visitors, ∀ severity, settings.override? visitor.id = some severity →
      severity.isHashable = true) :
    ∃ rows, runRules settings context (visitors.map Visitor.rule) =
      .ok ((graded settings context visitors).filter (reaches settings), rows) := by
  have hashable : ∀ finding ∈ graded settings context visitors,
      finding.severity.isHashable = true := by
    intro finding member
    rcases List.mem_flatMap.mp member with ⟨visitor, completing, among⟩
    rcases List.mem_filter.mp completing with ⟨isVisitor, completes⟩
    exact hashable_grade (sound visitor isVisitor) (given visitor isVisitor) completes finding
      among
  rw [← runRules_uncapped]
  exact exists_runRules (isRunnable_uncapped merged threshold) hashable

/-- Findings are selected only if some rule can report them. -/
theorem admits_of_mem_selected {text : String} {visitors : List Visitor} {finding : Finding}
    (member : finding ∈ selected settings text context visitors) :
    ∃ visitor ∈ visitors, settings.Admits visitor.id := by
  rcases List.mem_filter.mp member with ⟨among, admitted⟩
  rcases List.mem_flatMap.mp among with ⟨visitor, completing, reported⟩
  rcases List.mem_map.mp reported with ⟨original, -, rfl⟩
  refine ⟨visitor, List.mem_of_mem_filter completing, ?_⟩
  intro severity chosen
  rw [admits, Bool.and_eq_true, reaches, severity_grade, chosen] at admitted
  exact of_decide_eq_true admitted.1

end Fit

end Analysis

namespace Settings

open Analysis

/-- The naming rule does not give up with settings that fit. -/
theorem exists_runRule_naming {settings : Settings} (fit : settings.IsFit)
    (merged : IsMerged settings) {visitor : Visitor} (isNaming : visitor.rule = Rule.naming)
    (sound : visitor.rule.IsSound) (selects : settings.Selects visitor.id) (file : String)
    {text : String} {tree : SyntaxTree} (readable : tree.IsReadable (Utf8.encode text.toList)) :
    ∃ findings, runRule settings (Rule.Naming.contextOf text tree file) Rule.naming =
      .ok (findings, []) := by
  have sameId : visitor.id = Rule.Naming.id := congrArg Rule.id isNaming
  rcases (exists_skippedKinds_iff (shownOptions_isMap merged _)).mpr
    (fit.skipped (sameId ▸ selects)) with ⟨kinds, skips⟩
  have visits : ∃ findings,
      (courseOf settings (Rule.Naming.contextOf text tree file) visitor).collect =
        .ok findings := by
    have visitsNaming := Rule.Naming.visit_eq file readable skips
    rw [← sameId] at visitsNaming
    exact ⟨_, (congrFun (congrArg Rule.visit isNaming) _).trans visitsNaming⟩
  have completes : (courseOf settings (Rule.Naming.contextOf text tree file) visitor).completes =
      true := by
    by_contra breaks
    rcases Course.exists_collect_of_not_completes (Bool.eq_false_iff.mpr breaks) with
      ⟨fault, fails⟩
    rcases visits with ⟨findings, ends⟩
    rw [fails] at ends
    cases ends
  rw [← isNaming]
  exact ⟨_, runRule_of_completes
    (isRunnable_uncapped merged (fit.threshold visitor.id selects)) completes
    (hashable_grade sound (fit.severities visitor.id selects) completes)⟩

/-- Settings that fit carry every analysis. -/
theorem IsFit.carries {settings : Settings} (fit : settings.IsFit) (merged : IsMerged settings)
    {catalogue : Catalogue} (sound : ∀ rule ∈ catalogue.rules, rule.IsSound)
    (file : String) {text : String} {tree : SyntaxTree}
    (readable : tree.IsReadable (Utf8.encode text.toList)) :
    settings.Carries catalogue file text tree := by
  rcases exists_enabled fit catalogue with ⟨rules, enabled, selected⟩
  rcases List.map_surjective_iff.mpr Visitor.rule_surjective rules with ⟨visitors, rfl⟩
  have soundVisitors : ∀ visitor ∈ visitors, visitor.rule.IsSound :=
    fun visitor member => sound _ (selected _ (List.mem_map_of_mem member)).1
  have selects : ∀ visitor ∈ visitors, settings.Selects visitor.id :=
    fun visitor member => (selected visitor.rule (List.mem_map_of_mem member)).2
  refine ⟨_, enabled, ?_, ?_⟩
  · have runs : ∃ rows,
        runRules settings (Rule.Naming.contextOf text tree file) (visitors.map Visitor.rule) =
          .ok ((graded settings (Rule.Naming.contextOf text tree file) visitors).filter
            (reaches settings), rows) := by
      -- Without any rule nothing is looked up, so that the threshold may be of any kind.
      cases visitors with
      | nil => exact ⟨[], rfl⟩
      | cons visitor others =>
          exact exists_runRules_of_isMerged merged
            (fit.threshold visitor.id (selects visitor List.mem_cons_self)) soundVisitors
            fun each member => fit.severities each.id (selects each member)
    rcases runs with ⟨rows, runs⟩
    rw [exists_analyze_iff runs, unsuppressed_filter]
    apply fit.cap
    cases found : (graded settings (Rule.Naming.contextOf text tree file) visitors).filter
        (admits settings text) with
    | nil => exact Or.inl rfl
    | cons finding others =>
        have member : finding ∈ Analysis.selected settings text
            (Rule.Naming.contextOf text tree file) visitors := by
          rw [Analysis.selected, found]
          exact List.mem_cons_self
        rcases admits_of_mem_selected member with ⟨visitor, among, admitted⟩
        exact Or.inr ⟨visitor.id, selects visitor among, admitted⟩
  · intro member
    rcases List.mem_map.mp member with ⟨visitor, among, isNaming⟩
    exact exists_runRule_naming fit merged isNaming (soundVisitors visitor among)
      (selects visitor among) file readable

/-! ## Rules that bring out what does not fit -/

/-- A finding of the gravest kind at the front of a text. -/
def graveFinding (id : String) : Finding where
  rule := id
  message := ""
  file := ""
  start := 0
  stop := 0
  severity := .text "error"

/-- A visitor that reports a number of grave findings, wherever it looks. -/
def insistent (id : String) (count : Nat) : Visitor where
  id := id
  languages := [Rule.Naming.language]
  course _ := .ofList (List.replicate count (graveFinding id))

/-- The syntax tree of an empty text. -/
def emptyTree : SyntaxTree :=
  .node ⟨"compilation_unit", 0, 0, none, none⟩ []

theorem isSound_insistent (id : String) (count : Nat) : (insistent id count).rule.IsSound := by
  intro context findings ends
  cases (Course.collect_ofList _).symm.trans ends
  intro finding member
  rw [List.eq_of_mem_replicate member]
  rfl

theorem isSound_naming : Rule.naming.IsSound := by
  intro context findings ends finding member
  change Rule.Naming.visit context = .ok findings at ends
  rw [Rule.Naming.visit.eq_def] at ends
  split at ends
  · split at ends
    · rcases bind_eq_ok_iff.mp ends with ⟨skipped, -, endsRest⟩
      rcases bind_eq_ok_iff.mp endsRest with ⟨sites, -, same⟩
      cases same
      rcases List.mem_map.mp member with ⟨violation, -, rfl⟩
      rfl
    · cases ends
      cases member
  · cases ends
    cases member

theorem isHashable_of_rank {severity : Value} {place : Nat} (ranked : rank severity = .ok place) :
    severity.isHashable = true := by
  rw [rank.eq_def] at ranked
  split at ranked
  · rfl
  · rfl
  · split at ranked
    · cases ranked
    · rename_i hashable
      exact Option.isNone_iff_eq_none.mpr hashable

theorem standing_le_error (severity : Value) : standing severity ≤ standing (.text "error") := by
  rw [standing.eq_def]
  split
  · exact Nat.le_refl 2
  · exact Nat.le_succ 1
  · exact Nat.zero_le 2

section Necessity

variable {settings : Settings} {id : String}

/-- A grave finding is looked up with its severity and with the threshold. -/
theorem isHashable_of_analyze (merged : IsMerged settings) {found : List Finding × List Log}
    (ends : analyze settings [(insistent id 1).rule] "" "" emptyTree = .ok found) :
    (grade settings (insistent id 1) (graveFinding id)).severity.isHashable = true ∧
      settings.threshold.isHashable = true := by
  rcases bind_eq_ok_iff.mp ends with ⟨ran, runs, -⟩
  rcases bind_eq_ok_iff.mp runs with ⟨kept, runsOne, -⟩
  rcases bind_eq_ok_iff.mp runsOne with ⟨options, -, visits⟩
  rcases bind_eq_ok_iff.mp visits with ⟨severity?, isGiven, filters⟩
  rcases bind_eq_ok_iff.mp filters with ⟨reaching, filtered, -⟩
  have given : severity? = settings.severities.field? id := by
    rcases merged.severities with ⟨entries, isMap, -⟩
    have read := Value.getText_of_map ⟨entries, isMap⟩ id
    exact (Except.ok.inj (read.symm.trans isGiven)).symm
  have isGraded : withSeverity severity? = grade settings (insistent id 1) := by
    rw [given]
    exact withSeverity_eq settings (insistent id 1)
  have meets : ∃ isMet,
      settings.meets (grade settings (insistent id 1) (graveFinding id)).severity = .ok isMet := by
    rw [isGraded, aboveThreshold] at filtered
    change List.filterM _ [grade settings (insistent id 1) (graveFinding id)] = _ at filtered
    rw [filterM_cons] at filtered
    rcases bind_eq_ok_iff.mp filtered with ⟨isMet, isTested, -⟩
    exact ⟨isMet, isTested⟩
  rcases meets with ⟨isMet, isTested⟩
  rcases bind_eq_ok_iff.mp isTested with ⟨own, ranked, rest⟩
  rcases bind_eq_ok_iff.mp rest with ⟨least, rankedThreshold, -⟩
  exact ⟨isHashable_of_rank ranked, isHashable_of_rank rankedThreshold⟩

/-- Whatever their number, grave findings of a rule that is admitted are all selected. -/
theorem length_selected_insistent (admitted : settings.Admits id) (count : Nat)
    (context : Value → RuleContext) :
    (Analysis.selected settings "" context [insistent id count]).length = count := by
  have admits : Analysis.admits settings ""
      (grade settings (insistent id count) (graveFinding id)) = true := by
    rw [Analysis.admits, Bool.and_eq_true]
    refine ⟨decide_eq_true ?_, rfl⟩
    rw [severity_grade]
    cases chosen : settings.override? (insistent id count).id with
    | some severity => exact admitted severity chosen
    | none => exact standing_le_error settings.threshold
  have all : graded settings context [insistent id count] =
      List.replicate count (grade settings (insistent id count) (graveFinding id)) := by
    have course : courseOf settings context (insistent id count) =
        .ofList (List.replicate count (graveFinding id)) := rfl
    have completing : completing settings context [insistent id count] =
        [insistent id count] := by
      rw [Analysis.completing, List.filter_cons, course, Course.completes_ofList]
      rfl
    rw [Analysis.graded, completing, List.flatMap_singleton, course, Course.reported_ofList,
      List.map_replicate]
  rw [Analysis.selected, all, List.filter_replicate, if_pos admits, List.length_replicate]

/-- A naming rule that does not give up has read which kinds to skip. -/
theorem exists_skippedKinds (merged : IsMerged settings) {file text : String}
    {tree : SyntaxTree} {findings : List Finding}
    (runs : runRule settings (Rule.Naming.contextOf text tree file) Rule.naming =
      .ok (findings, [])) :
    ∃ labels, Rule.Naming.skippedKinds (settings.shownOptions Rule.Naming.id) = .ok labels := by
  cases skips : Rule.Naming.skippedKinds (settings.shownOptions Rule.Naming.id) with
  | ok labels => exact ⟨labels, rfl⟩
  | error fault =>
      have givesUp : Rule.Naming.visit (Rule.Naming.contextOf text tree file
          (settings.shownOptions Rule.Naming.id)) = .error fault := by
        simp only [Rule.Naming.visit, Rule.Naming.contextOf, if_pos, skips]
        rfl
      have fails : Rule.naming.visit (Rule.Naming.contextOf text tree file
          (settings.shownOptions Rule.naming.id)) = .error fault := givesUp
      rw [runRule, optionsFor_of_isMerged merged] at runs
      simp only [bind, Except.bind, fails] at runs
      cases runs

namespace IsReady

variable (ready : settings.IsReady)
include ready

theorem carries_singleton {rule : Rule} (sound : rule.IsSound) :
    settings.Carries (Catalogue.mk [rule] []) "" "" emptyTree :=
  ready _ (List.forall_mem_singleton.mpr sound) "" "" emptyTree (by decide)

theorem exists_analyze (count : Nat) (selects : settings.Selects id) :
    ∃ found, analyze settings [(insistent id count).rule] "" "" emptyTree = .ok found := by
  rcases ready.carries_singleton (isSound_insistent id count) with ⟨rules, enabled, ends, -⟩
  cases (enabled_of_selects rfl selects).symm.trans enabled
  exact ends

theorem threshold (merged : IsMerged settings) (selects : settings.Selects id) :
    settings.threshold.isHashable = true := by
  rcases ready.exists_analyze 1 selects with ⟨found, ends⟩
  exact (isHashable_of_analyze merged ends).2

theorem severity (merged : IsMerged settings) (selects : settings.Selects id) {severity : Value}
    (chosen : settings.override? id = some severity) :
    severity.isHashable = true := by
  rcases ready.exists_analyze 1 selects with ⟨found, ends⟩
  have hashable := (isHashable_of_analyze merged ends).1
  have same : settings.override? (insistent id 1).id = some severity := chosen
  rw [severity_grade, same] at hashable
  exact hashable

theorem exists_patterns :
    ∃ patterns, settings.enabledRules.elements = .ok patterns ∧
      ∀ id, Catalogue.CanTry id patterns := by
  have tried : ∀ id, ∃ patterns, settings.enabledRules.elements = .ok patterns ∧
      ∃ isMatch, Catalogue.matchesAny id patterns = .ok isMatch := by
    intro id
    rcases ready.carries_singleton (isSound_insistent id 0) with ⟨rules, enabled, -⟩
    rw [enabled_singleton rfl] at enabled
    rcases bind_eq_ok_iff.mp enabled with ⟨patterns, read, rest⟩
    rcases bind_eq_ok_iff.mp rest with ⟨isMatch, matched, -⟩
    exact ⟨patterns, read, isMatch, matched⟩
  rcases tried "" with ⟨patterns, read, -⟩
  refine ⟨patterns, read, ?_⟩
  intro id
  rcases tried id with ⟨same, readSame, matched⟩
  cases read.symm.trans readSame
  exact exists_matchesAny_iff.mp matched

theorem capsAt_zero : settings.maxFindings.CapsAt 0 := by
  rcases ready (Catalogue.mk [] []) (List.forall_mem_nil _) "" "" emptyTree (by decide) with
    ⟨rules, enabled, ends, -⟩
  rcases bind_eq_ok_iff.mp enabled with ⟨patterns, -, none⟩
  cases none
  exact (exists_analyze_iff rfl).mp ends

theorem capsAt (merged : IsMerged settings) (selects : settings.Selects id)
    (admitted : settings.Admits id) (count : Nat) :
    settings.maxFindings.CapsAt count := by
  have runs : ∃ rows, runRules settings (Rule.Naming.contextOf "" emptyTree "")
      ([insistent id count].map Visitor.rule) =
        .ok ((graded settings (Rule.Naming.contextOf "" emptyTree "")
          [insistent id count]).filter (reaches settings), rows) :=
    exists_runRules_of_isMerged merged (ready.threshold merged selects)
      (List.forall_mem_singleton.mpr (isSound_insistent id count))
      (List.forall_mem_singleton.mpr fun _ chosen => ready.severity merged selects chosen)
  rcases runs with ⟨rows, runs⟩
  have caps := (exists_analyze_iff runs).mp (ready.exists_analyze count selects)
  rw [unsuppressed_filter] at caps
  rw [← length_selected_insistent admitted count (Rule.Naming.contextOf "" emptyTree "")]
  exact caps

/-- Settings that carry every analysis fit. -/
theorem isFit (merged : IsMerged settings) : settings.IsFit where
  patterns := ready.exists_patterns
  threshold _ selects := ready.threshold merged selects
  severities _ selects _ chosen := ready.severity merged selects chosen
  cap := by
    rintro count (rfl | ⟨id, selects, admitted⟩)
    · exact ready.capsAt_zero
    · exact ready.capsAt merged selects admitted count
  skipped := by
    intro selects
    rcases ready.carries_singleton isSound_naming with ⟨rules, enabled, -, runs⟩
    cases (enabled_of_selects rfl selects).symm.trans enabled
    rcases runs List.mem_cons_self with ⟨findings, ends⟩
    exact (exists_skippedKinds_iff (shownOptions_isMap merged _)).mp
      (exists_skippedKinds merged ends)

end IsReady

end Necessity

/--
Loaded settings can be run with, whatever the rules, the text and its tree are, exactly if
they fit.  Those whose values are of the declared kinds do.
-/
theorem isReady_iff_isFit {path : String} {loaded : Value} {settings : Settings}
    (merges : merge path loaded = .ok settings) :
    (settings.IsReady ↔ settings.IsFit) ∧ (settings.IsTyped → settings.IsFit) := by
  have merged := isMerged_of_merge merges
  refine ⟨⟨fun ready => ready.isFit merged, ?_⟩, IsTyped.isFit⟩
  intro fit catalogue sound file text tree readable
  exact fit.carries merged sound file readable

/-- An empty settings file leaves the default settings, which carry the sample. -/
theorem isReady_iff_isFit_default :
    default.IsTyped ∧
      default.Carries (Catalogue.mk [Rule.naming] []) "sample.cs" CasingLint.Sample.text
        CasingLint.Sample.tree := by
  have typed : default.IsTyped := by
    refine ⟨⟨["*"], rfl⟩, ⟨200, rfl⟩, ⟨"info", rfl⟩, ?_, ?_⟩
    · intro id severity given
      cases List.mem_singleton.mp (Value.mem_of_lookup_eq_some given)
      exact ⟨"warn", rfl⟩
    · intro kinds given
      cases given
      exact ⟨[], rfl⟩
  have fits := @isReady_iff_isFit "namecheck.yml" .null default rfl
  exact ⟨typed, fits.1.mpr (fits.2 typed) (Catalogue.mk [Rule.naming] [])
    (List.forall_mem_singleton.mpr isSound_naming) "sample.cs" _ _ (by decide +kernel)⟩

/-- A cap that is given without a value is loaded, and ends the analysis with a fault. -/
theorem merge_emptyCap :
    ∃ settings,
      merge "namecheck.yml" (.record [("max_findings_per_file", .null)]) = .ok settings ∧
        (Catalogue.mk [Rule.naming] []).enabled settings.enabledRules Rule.Naming.language =
          .ok [Rule.naming] ∧
        CasingLint.Sample.tree.IsReadable (Utf8.encode CasingLint.Sample.text.toList) ∧
        analyze settings [Rule.naming] "sample.cs" CasingLint.Sample.text
            CasingLint.Sample.tree =
          .error (.notNumber "NoneType") ∧
        ¬ settings.IsFit := by
  refine ⟨{ default with maxFindings := .null }, rfl, rfl, by decide +kernel, by rfl, ?_⟩
  intro fit
  rcases fit.cap 0 (Or.inl rfl) with ⟨number, impossible⟩ | ⟨bound, impossible, -⟩
  · cases impossible
  · cases impossible

end Settings

end CasingLint
