import CasingLint.Proofs.Rule.Naming

/-!
# Fixing is exact

The edits of any of the findings that the naming rule reports for a file can be applied
together.  The result is the text with the span of each of these findings replaced by the
name that the finding suggests, and with everything else as it was.
-/

namespace CasingLint

open CasingLint.Text

/-- The edit that a finding's details describe: the suggested name in the finding's place. -/
def Finding.suggestion? (finding : Finding) : Option Edit :=
  match finding.details.bind (List.lookup "suggested_name") with
  | some (.text name) => some ⟨finding.start, finding.stop, name⟩
  | _ => none

theorem Rule.Naming.suggestion?_finding (file : String) (violation : Violation) :
    (finding file violation).suggestion? = some violation.edit := rfl

/-- Some of the violations of a tree, mended together. -/
theorem SyntaxTree.exists_applyAll {isTip : String → Bool} {text : String} {tree : SyntaxTree}
    (namesAreTips : ∀ type, isNameType type → isTip type) (parsed : tree.IsTreeOf isTip text)
    {source : Utf8.Octets} {violations : List Violation}
    (among : violations.Sublist (tree.violations source)) :
    (violations.map Violation.edit).Nodup ∧
      (∀ edit ∈ violations.map Violation.edit, edit.IsProper) ∧
      ∃ result : String,
        Edit.applyAll text (violations.map Violation.edit) = .ok result ∧
          Edit.Rewrites 0 (Utf8.encode text.toList)
            (Edit.ordered (violations.map Violation.edit)) (Utf8.encode result.toList) := by
  have separate : (violations.map Violation.edit).Pairwise Edit.IsApart :=
    (pairwise_isApart_edits namesAreTips parsed source).sublist (among.map Violation.edit)
  have placed : ∀ edit ∈ violations.map Violation.edit,
      edit.IsProper ∧
        edit.start.toNat ∈ Utf8.boundaries text.toList ∧
        edit.stop.toNat ∈ Utf8.boundaries text.toList := by
    intro edit member
    rcases List.mem_map.mp member with ⟨violation, chosen, rfl⟩
    rcases List.mem_filterMap.mp (among.subset chosen) with ⟨binding, bound, violated⟩
    exact edit_of_violation? parsed bound violated
  have proper : ∀ edit ∈ violations.map Violation.edit, edit.IsProper :=
    fun edit member => (placed edit member).1
  exact ⟨Edit.nodup_of_isApart separate proper, proper,
    Edit.applyAll_of_isApart separate proper fun edit member => (placed edit member).2⟩

/--
The naming rule reports findings for every tree that a parser gives, and the edits of any
of these findings can be applied.  Applying them puts the suggested name of each chosen
finding in the finding's place and keeps all other octets.
-/
theorem Rule.Naming.applyAll_collectEdits {text : String} {tree : SyntaxTree} {options : Value}
    (file : String) (kinds? : Option (List String))
    (parsed : tree.IsTreeOf SyntaxTree.isNameType text)
    (readable : tree.IsReadable (Utf8.encode text.toList))
    (skips : options.getText "skip_kinds" =
      .ok (kinds?.map fun kinds => .list (kinds.map .text))) :
    ∃ findings,
      visit ⟨file, text, some tree, some language, options⟩ = .ok findings ∧
        ∀ chosen : List Finding, chosen.Sublist findings →
          ∃ (result : String) (replacements : List Edit),
            Edit.applyAll text (Finding.collectEdits chosen) = .ok result ∧
              (replacements.map some).Perm (chosen.map Finding.suggestion?) ∧
              Edit.Rewrites 0 (Utf8.encode text.toList) replacements
                (Utf8.encode result.toList) := by
  refine ⟨_, visit_eq file readable (skippedKinds_of_texts kinds? skips), ?_⟩
  intro chosen among
  rcases List.sublist_map_iff.mp among with ⟨violations, kept, rfl⟩
  have reported := kept.trans List.filter_sublist
  rcases SyntaxTree.exists_applyAll (fun _ isName => isName) parsed reported with
    ⟨distinct, -, result, applied, rewritten⟩
  refine ⟨result, Edit.ordered (violations.map Violation.edit), ?_, ?_, rewritten⟩
  · rw [collectEdits_map_finding file distinct]
    exact applied
  · have suggestions :
        (violations.map (finding file)).map Finding.suggestion? =
          (violations.map Violation.edit).map some := by
      simp only [List.map_map, Function.comp_def, suggestion?_finding]
    rw [suggestions]
    exact (Edit.ordered_perm _).map some

namespace Sample

/-- A small text with three names that do not conform, one with letters of two octets. -/
def text : String :=
  "class été \x7b int Baz; public int bar; \x7d"

/-- A node of the sample without a field. -/
def plain (type : String) (start stop : Nat) (children : List SyntaxTree) : SyntaxTree :=
  .node ⟨type, start, stop, none, none⟩ children

/-- A name of the sample, in the name field of its parent. -/
def name (start stop : Nat) : SyntaxTree :=
  .node ⟨"identifier", start, stop, some "name", none⟩ []

/-- A declaration of one variable of the sample: its type and its name. -/
def binder (start typeStop nameStart stop : Nat) : SyntaxTree :=
  plain "variable_declaration" start stop [
    plain "predefined_type" start typeStop [],
    plain "variable_declarator" nameStart stop [name nameStart stop]]

/-- The syntax tree of the sample. -/
def tree : SyntaxTree :=
  plain "compilation_unit" 0 40 [
    plain "class_declaration" 0 40 [
      plain "class" 0 5 [],
      name 6 11,
      plain "declaration_list" 12 40 [
        plain "\x7b" 12 13 [],
        plain "field_declaration" 14 22 [binder 14 17 18 21, plain ";" 21 22 []],
        plain "field_declaration" 23 38 [
          plain "modifier" 23 29 [], binder 30 33 34 37, plain ";" 37 38 []],
        plain "\x7d" 39 40 []]]]

/-- The sample as the naming rule gets to see it, without options. -/
def context : RuleContext :=
  ⟨"sample.cs", text, some tree, some Rule.Naming.language, .map []⟩

end Sample

/-- The names of the sample are reported, and any of them can be mended. -/
theorem Rule.Naming.applyAll_collectEdits_sample :
    Sample.tree.IsTreeOf SyntaxTree.isNameType Sample.text ∧
      Sample.tree.IsReadable (Utf8.encode Sample.text.toList) ∧
      (visit Sample.context).toOption.map (·.map Finding.suggestion?) =
        some [some ⟨6, 11, "Été"⟩, some ⟨18, 21, "_baz"⟩, some ⟨34, 37, "Bar"⟩] ∧
      ∃ findings,
        visit Sample.context = .ok findings ∧
          ∀ chosen : List Finding, chosen.Sublist findings →
            ∃ (result : String) (replacements : List Edit),
              Edit.applyAll Sample.text (Finding.collectEdits chosen) = .ok result ∧
                (replacements.map some).Perm (chosen.map Finding.suggestion?) ∧
                Edit.Rewrites 0 (Utf8.encode Sample.text.toList) replacements
                  (Utf8.encode result.toList) :=
  ⟨by decide +kernel, by decide +kernel, by decide +kernel,
    applyAll_collectEdits "sample.cs" none (by decide +kernel) (by decide +kernel) rfl⟩

end CasingLint
