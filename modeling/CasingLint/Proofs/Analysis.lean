import CasingLint.Analysis
import CasingLint.Proofs.Fix.Exactness
import CasingLint.Proofs.Outcome

/-!
# What the analysis of a text reports

With the naming rule alone, every finding of an analysis mends a violation of the tree.
The name of the file is passed on and nothing else is done with it: the same text under
another name has the same findings there, and fails where this one fails.
-/

namespace CasingLint

open CasingLint.Text Outcome

namespace Finding

/-- The finding as it is for another file. -/
def inFile (file : String) (finding : Finding) : Finding :=
  { finding with file := file }

/-- Does the finding suggest, and carry as its only edit, the edit for one of the violations? -/
def MendsOneOf (violations : List Violation) (finding : Finding) : Prop :=
  ∃ violation ∈ violations,
    finding.edits = [violation.edit] ∧ finding.suggestion? = some violation.edit

theorem MendsOneOf.inFile {violations : List Violation} {finding : Finding}
    (mends : finding.MendsOneOf violations) (file : String) :
    (finding.inFile file).MendsOneOf violations :=
  mends

end Finding

namespace Analysis

theorem withSeverity_inFile (severity? : Option Value) (file : String) (finding : Finding) :
    withSeverity severity? (finding.inFile file) =
      (withSeverity severity? finding).inFile file := by
  cases severity? with
  | none => rfl
  | some severity =>
      rw [withSeverity, withSeverity]
      split
      · rfl
      · rfl

theorem mendsOneOf_withSeverity {violations : List Violation} {finding : Finding}
    (severity? : Option Value) (mends : finding.MendsOneOf violations) :
    (withSeverity severity? finding).MendsOneOf violations := by
  cases severity? with
  | none => exact mends
  | some severity =>
      rw [withSeverity]
      split
      · exact mends
      · exact mends

theorem aboveThreshold_inFile (settings : Settings) (file : String) (findings : List Finding) :
    aboveThreshold settings (findings.map (Finding.inFile file)) =
      (aboveThreshold settings findings).map (List.map (Finding.inFile file)) :=
  filterM_map findings

theorem unsuppressed_inFile (text file : String) (findings : List Finding) :
    unsuppressed text (findings.map (Finding.inFile file)) =
      (unsuppressed text findings).map (Finding.inFile file) :=
  List.filter_map

theorem firstItems_map {input output : Type} (count : Int) (change : input → output)
    (items : List input) :
    firstItems count (items.map change) = (firstItems count items).map change := by
  rw [firstItems, firstItems, List.length_map]
  split
  · exact List.map_take.symm
  · exact List.map_take.symm

theorem firstItems_sublist {input : Type} (count : Int) (items : List input) :
    (firstItems count items).Sublist items := by
  rw [firstItems]
  split
  · exact List.take_sublist _ items
  · exact List.take_sublist _ items

theorem cut_inFile (file : String) (findings : List Finding) (cap : Value) :
    cut (findings.map (Finding.inFile file)) cap =
      (cut findings cap).map (List.map (Finding.inFile file)) := by
  cases cap with
  | int bound => exact congrArg Except.ok (firstItems_map bound _ findings)
  | bool truth => exact congrArg Except.ok List.map_take.symm
  | _ => rfl

theorem sublist_of_cut {findings kept : List Finding} {cap : Value}
    (ends : cut findings cap = .ok kept) :
    kept.Sublist findings := by
  cases cap with
  | int bound =>
      cases ends
      exact firstItems_sublist bound findings
  | bool truth =>
      cases ends
      exact List.take_sublist _ findings
  | _ => contradiction

/-- Ends for all files alike, with findings that each mend one of the violations. -/
inductive IsUniform (violations : List Violation)
    (outcome : String → Except Fault (List Finding × List Log)) : Prop where
  | fails {fault : Fault} (fails : ∀ file, outcome file = .error fault)
  | ends {common : List Finding} (mend : ∀ finding ∈ common, finding.MendsOneOf violations)
      (ends : ∀ file, ∃ rows, outcome file = .ok (common.map (Finding.inFile file), rows))

end Analysis

namespace Rule.Naming

/-- What the analysis shows to the rule. -/
def contextOf (text : String) (tree : SyntaxTree) (file : String) (options : Value) : RuleContext :=
  ⟨file, text, some tree, some language, options⟩

theorem mendsOneOf_finding {violations : List Violation} {violation : Violation} (file : String)
    (member : violation ∈ violations) :
    (finding file violation).MendsOneOf violations :=
  ⟨violation, member, rfl, suggestion?_finding file violation⟩

/-- The rule ends for all files alike. -/
theorem visit_uniform (text : String) (tree : SyntaxTree) (options : Value) :
    (∃ fault, ∀ file, visit (contextOf text tree file options) = .error fault) ∨
      ∃ common : List Finding,
        (∀ finding ∈ common, finding.MendsOneOf (tree.violations (Utf8.encode text.toList))) ∧
          ∀ file, visit (contextOf text tree file options) =
            .ok (common.map (Finding.inFile file)) := by
  cases skips : skippedKinds options with
  | error fault =>
      refine Or.inl ⟨fault, fun file => ?_⟩
      simp only [visit, contextOf, if_pos, skips]
      rfl
  | ok skipped =>
      cases read : tree.allSites (Utf8.encode text.toList) with
      | error fault =>
          refine Or.inl ⟨.escape fault, fun file => ?_⟩
          simp only [visit, contextOf, if_pos, skips, read]
          rfl
      | ok sites =>
          have readable := SyntaxTree.exists_allSites_iff.mp ⟨sites, read⟩
          refine Or.inr ⟨((tree.violations (Utf8.encode text.toList)).filter
            fun violation => !skipped.contains violation.label).map (finding ""), ?_, ?_⟩
          · intro reported member
            rcases List.mem_map.mp member with ⟨violation, kept, rfl⟩
            exact mendsOneOf_finding "" (List.mem_of_mem_filter kept)
          · intro file
            rw [contextOf, visit_eq file readable skips, List.map_map]
            rfl

end Rule.Naming

namespace Analysis

section Uniformity

variable (settings : Settings) (text : String) (tree : SyntaxTree)

theorem runRule_uniform :
    IsUniform (tree.violations (Utf8.encode text.toList)) fun file =>
      runRule settings (Rule.Naming.contextOf text tree file) Rule.naming := by
  cases chosen : settings.optionsFor Rule.naming.id with
  | error fault =>
      apply IsUniform.fails
      intro file
      rw [runRule, chosen]
      rfl
  | ok options =>
      rcases Rule.Naming.visit_uniform text tree options with ⟨fault, fails⟩ | ⟨common, mend, ends⟩
      · apply IsUniform.ends (List.forall_mem_nil _)
        intro file
        have failsHere : Rule.naming.visit (Rule.Naming.contextOf text tree file options) =
            .error fault := fails file
        rw [runRule, chosen]
        simp only [bind, Except.bind, failsHere]
        exact ⟨_, rfl⟩
      · have steps (file : String) :
            runRule settings (Rule.Naming.contextOf text tree file) Rule.naming = (do
              let severity? ← settings.severity? Rule.naming.id
              let kept ← (aboveThreshold settings (common.map (withSeverity severity?))).map
                (List.map (Finding.inFile file))
              return (kept, [])) := by
          have endsHere : Rule.naming.visit (Rule.Naming.contextOf text tree file options) =
              .ok (common.map (Finding.inFile file)) := ends file
          rw [runRule, chosen]
          simp only [bind, Except.bind, endsHere, List.map_map, Function.comp_def,
            withSeverity_inFile, ← aboveThreshold_inFile]
        cases graded : settings.severity? Rule.naming.id with
        | error fault =>
            apply IsUniform.fails
            intro file
            rw [steps, graded]
            rfl
        | ok severity? =>
            cases filtered : aboveThreshold settings (common.map (withSeverity severity?)) with
            | error fault =>
                apply IsUniform.fails
                intro file
                rw [steps, graded]
                simp only [bind, Except.bind, filtered, Except.map]
                rfl
            | ok kept =>
                apply IsUniform.ends
                · intro finding member
                  rcases List.mem_map.mp ((sublist_of_filterM filtered).subset member) with
                    ⟨reported, among, rfl⟩
                  exact mendsOneOf_withSeverity severity? (mend reported among)
                · intro file
                  rw [steps, graded]
                  simp only [bind, Except.bind, filtered, Except.map]
                  exact ⟨[], rfl⟩

theorem runRules_uniform {rules : List Rule} (standard : ∀ rule ∈ rules, rule = Rule.naming) :
    IsUniform (tree.violations (Utf8.encode text.toList)) fun file =>
      runRules settings (Rule.Naming.contextOf text tree file) rules := by
  induction rules with
  | nil => exact IsUniform.ends (List.forall_mem_nil _) fun file => ⟨[], rfl⟩
  | cons rule rest ih =>
      rcases List.forall_mem_cons.mp standard with ⟨rfl, others⟩
      rcases runRule_uniform settings text tree with fails | ⟨mendFirst, endsFirst⟩
      · apply IsUniform.fails
        intro file
        rw [runRules, fails file]
        rfl
      · rcases ih others with fails | ⟨mendMore, endsMore⟩
        · apply IsUniform.fails
          intro file
          rcases endsFirst file with ⟨rows, ends⟩
          rw [runRules, ends, fails file]
          rfl
        · apply IsUniform.ends (List.forall_mem_append.mpr ⟨mendFirst, mendMore⟩)
          intro file
          rcases endsFirst file with ⟨rows, ends⟩
          rcases endsMore file with ⟨moreRows, endsRest⟩
          rw [runRules, ends, endsRest, List.map_append]
          exact ⟨rows ++ moreRows, rfl⟩

theorem capped_uniform {violations : List Violation} {findings : List Finding}
    (mend : ∀ finding ∈ findings, finding.MendsOneOf violations) :
    IsUniform violations fun file =>
      capped settings file (findings.map (Finding.inFile file)) := by
  cases measured : exceeds findings.length settings.maxFindings with
  | error fault =>
      apply IsUniform.fails
      intro file
      rw [capped, List.length_map, measured]
      rfl
  | ok isCut =>
      cases isCut with
      | false =>
          apply IsUniform.ends mend
          intro file
          rw [capped, List.length_map, measured]
          exact ⟨[], rfl⟩
      | true =>
          cases shortened : cut findings settings.maxFindings with
          | error fault =>
              apply IsUniform.fails
              intro file
              rw [capped, List.length_map, measured, cut_inFile, shortened]
              rfl
          | ok kept =>
              apply IsUniform.ends
              · intro finding member
                exact mend finding ((sublist_of_cut shortened).subset member)
              · intro file
                rw [capped, List.length_map, measured, cut_inFile, shortened]
                exact ⟨_, rfl⟩

/-- The analysis of a text with the naming rule alone is the same for every file. -/
theorem analyze_uniform {rules : List Rule} (standard : ∀ rule ∈ rules, rule = Rule.naming) :
    IsUniform (tree.violations (Utf8.encode text.toList)) fun file =>
      analyze settings rules file text tree := by
  have steps (file : String) :
      analyze settings rules file text tree =
        runRules settings (Rule.Naming.contextOf text tree file) rules >>= fun found =>
          capped settings file (unsuppressed text found.1) >>= fun kept =>
            .ok (kept.1, found.2 ++ kept.2) := rfl
  rcases runRules_uniform settings text tree standard with fails | @⟨all, mend, ends⟩
  · apply IsUniform.fails
    intro file
    rw [steps, fails file]
    rfl
  · have mendShown : ∀ finding ∈ unsuppressed text all,
        finding.MendsOneOf (tree.violations (Utf8.encode text.toList)) :=
      fun finding member => mend finding (List.mem_of_mem_filter member)
    rcases capped_uniform settings mendShown with fails | ⟨mendKept, endsCapped⟩
    · apply IsUniform.fails
      intro file
      rcases ends file with ⟨rows, endsHere⟩
      have failsHere := fails file
      rw [← unsuppressed_inFile] at failsHere
      rw [steps, endsHere]
      simp only [bind, Except.bind, failsHere]
      rfl
    · apply IsUniform.ends mendKept
      intro file
      rcases ends file with ⟨rows, endsHere⟩
      rcases endsCapped file with ⟨cutRows, cappedHere⟩
      rw [← unsuppressed_inFile] at cappedHere
      rw [steps, endsHere]
      simp only [bind, Except.bind, cappedHere]
      exact ⟨rows ++ cutRows, rfl⟩

end Uniformity

end Analysis

end CasingLint
