import CasingLint.Analysis
import CasingLint.Proofs.Fix.Exactness

/-!
# When the naming rule runs to its end

The rule reads every name of a tree before it looks at its spelling, also the names whose
spelling it would leave alone.  So one escape without a value, on any name, ends the rule
for the whole file: it runs to its end, and reports every violation, exactly if all names
of the tree have a value.
-/

namespace CasingLint

open CasingLint.Text

namespace Rule.Naming

/-- The log row for a file on which the rule gave up. -/
def failureRow (file : String) (fault : Escape.Fault) : Log :=
  ⟨.warning, .run,
    "Rule '" ++ id ++ "' failed on " ++ file ++ ": " ++ (Fault.escape fault).message⟩

theorem visit_of_not_readable {text : String} {tree : SyntaxTree} {options : Value}
    {skipped : List String} (file : String)
    (unreadable : ¬ tree.IsReadable (Utf8.encode text.toList))
    (skips : skippedKinds options = .ok skipped) :
    ∃ fault, visit ⟨file, text, some tree, some language, options⟩ = .error (.escape fault) := by
  cases read : tree.allSites (Utf8.encode text.toList) with
  | ok sites => exact absurd (SyntaxTree.exists_allSites_iff.mp ⟨sites, read⟩) unreadable
  | error fault =>
      refine ⟨fault, ?_⟩
      simp only [visit, if_pos, skips, read]
      rfl

theorem runRule_of_visit_eq_error {settings : Settings} {context : Value → RuleContext}
    {options : Value} {fault : Escape.Fault}
    (chosen : settings.optionsFor id = .ok options)
    (fails : visit (context options) = .error (.escape fault)) :
    Analysis.runRule settings context naming =
      .ok ([], [failureRow (context options).file fault]) := by
  have failsNaming : naming.visit (context options) = .error (.escape fault) := fails
  have chosenNaming : settings.optionsFor naming.id = .ok options := chosen
  rw [Analysis.runRule, chosenNaming]
  simp only [bind, Except.bind, failsNaming]
  rfl

/--
The rule runs to its end exactly if all names of the tree have a value.  It then reports
every violation, except those of skipped kinds; otherwise the analysis of the file gets
nothing from it but a log row.
-/
theorem visit_completes_iff {text : String} {tree : SyntaxTree} {options : Value}
    (file : String) (kinds? : Option (List String))
    (skips : options.getText "skip_kinds" =
      .ok (kinds?.map fun kinds => .list (kinds.map .text))) :
    ((∃ findings, visit ⟨file, text, some tree, some language, options⟩ = .ok findings) ↔
        tree.IsReadable (Utf8.encode text.toList)) ∧
      (tree.IsReadable (Utf8.encode text.toList) →
        visit ⟨file, text, some tree, some language, options⟩ =
          .ok (((tree.violations (Utf8.encode text.toList)).filter
            fun violation => !(kinds?.getD []).contains violation.label).map (finding file))) ∧
      (¬ tree.IsReadable (Utf8.encode text.toList) →
        ∀ settings : Settings, settings.optionsFor id = .ok options →
          ∃ fault,
            Analysis.runRule settings
                (fun options => ⟨file, text, some tree, some language, options⟩) naming =
              .ok ([], [failureRow file fault])) := by
  have skipped := skippedKinds_of_texts kinds? skips
  refine ⟨⟨?_, ?_⟩, ?_, ?_⟩
  · rintro ⟨findings, ends⟩
    by_contra unreadable
    rcases visit_of_not_readable file unreadable skipped with ⟨fault, fails⟩
    rw [fails] at ends
    contradiction
  · intro readable
    exact ⟨_, visit_eq file readable skipped⟩
  · intro readable
    exact visit_eq file readable skipped
  · intro unreadable settings chosen
    rcases visit_of_not_readable file unreadable skipped with ⟨fault, fails⟩
    exact ⟨fault, runRule_of_visit_eq_error chosen fails⟩

end Rule.Naming

namespace Sample

/-- A text in which one name is spelled with an escape beyond the last code point. -/
def escapedText : String :=
  "class foo \x7b int \\U00110000; \x7d"

/-- Its syntax tree. -/
def escapedTree : SyntaxTree :=
  plain "compilation_unit" 0 29 [
    plain "class_declaration" 0 29 [
      plain "class" 0 5 [],
      name 6 9,
      plain "declaration_list" 10 29 [
        plain "\x7b" 10 11 [],
        plain "field_declaration" 12 27 [binder 12 15 16 26, plain ";" 26 27 []],
        plain "\x7d" 28 29 []]]]

end Sample

namespace Rule.Naming

/-- The sample is reported in full; the text with the escape gives a log row only. -/
theorem visit_completes_iff_sample :
    Sample.tree.IsReadable (Utf8.encode Sample.text.toList) ∧
      visit Sample.context =
        .ok (((Sample.tree.violations (Utf8.encode Sample.text.toList)).filter
          fun violation => !([] : List String).contains violation.label).map
            (finding "sample.cs")) ∧
      ¬ Sample.escapedTree.IsReadable (Utf8.encode Sample.escapedText.toList) ∧
      ∃ fault,
        Analysis.runRule .default
            (fun options =>
              ⟨"sample.cs", Sample.escapedText, some Sample.escapedTree, some language, options⟩)
            naming =
          .ok ([], [failureRow "sample.cs" fault]) :=
  ⟨by decide +kernel,
    (@visit_completes_iff _ _ (.map []) "sample.cs" none rfl).2.1 (by decide +kernel),
    by decide +kernel,
    (@visit_completes_iff _ _ (.record [("skip_kinds", .list [])]) "sample.cs" (some []) rfl).2.2
      (by decide +kernel) .default rfl⟩

/-- An escape beyond the last code point hides the violation of another name. -/
theorem visit_beyondUnicode :
    Sample.escapedTree.IsTreeOf SyntaxTree.isNameType Sample.escapedText ∧
      Sample.escapedTree.violations (Utf8.encode Sample.escapedText.toList) =
        [⟨6, 9, "class", "foo", "Foo", .upperCamel⟩] ∧
      visit ⟨"sample.cs", Sample.escapedText, some Sample.escapedTree, some language, .map []⟩ =
        .error (.escape .beyondUnicode) ∧
      (Analysis.analyze .default [naming] "sample.cs" Sample.escapedText
        Sample.escapedTree).toOption.map (fun found => found.1.length) = some 0 :=
  ⟨by decide +kernel, by decide +kernel, by rfl, by decide +kernel⟩

end Rule.Naming

end CasingLint
