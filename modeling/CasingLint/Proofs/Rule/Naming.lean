import CasingLint.Proofs.Edit.Rewriting
import CasingLint.Proofs.Name.Idempotence
import CasingLint.Proofs.SyntaxTree.Layout
import CasingLint.Rule.Naming

/-!
# What the naming rule reports

The rule reports the violations of the bindings of a tree, in order.  A violation depends
on the source only through the spelling of the name and the words of the modifiers, and
its edit replaces the span of the name.  In a tree as a parser gives it these spans do not
overlap, so that the edits of any findings can be collected as they are.
-/

namespace CasingLint

open CasingLint.Text

/-! ## The violation of a binding -/

namespace SyntaxTree.Binding

/-- The convention for the name of a binding, given what the source says at its modifiers. -/
def convention? (source : Utf8.Octets) (binding : Binding) : Option Convention :=
  binding.kind.convention? (.ofKeywords (binding.modifiers.map (text source)))

/-- The violation of a binding, if the spelling of its name has to change. -/
def violation? (source : Utf8.Octets) (binding : Binding) : Option Violation :=
  match binding.name.token source, binding.convention? source with
  | .ok token, some convention => Violation.ofToken? binding.kind.label convention token
  | _, _ => none

end SyntaxTree.Binding

/-- The violations of the bindings of a tree, in order. -/
def SyntaxTree.violations (source : Utf8.Octets) (tree : SyntaxTree) : List Violation :=
  tree.bindings.filterMap (Binding.violation? source)

/-- The violation of a token of a declaration, if its spelling has to change. -/
def Declaration.violation? (declaration : Declaration) (token : Token) : Option Violation :=
  declaration.convention?.bind fun convention =>
    Violation.ofToken? declaration.kind.label convention token

theorem Declaration.violations_eq_filterMap (declaration : Declaration) :
    declaration.violations = declaration.identifiers.filterMap declaration.violation? := by
  rw [violations]
  unfold violation?
  cases declaration.convention? with
  | none => simp
  | some convention => rfl

theorem SyntaxTree.Binding.Reads.violation? {source : Utf8.Octets}
    {binding : SyntaxTree.Binding} {read : Declaration × Token}
    (reads : binding.Reads source read) :
    read.1.violation? read.2 = binding.violation? source := by
  rw [Binding.violation?, reads.token, Declaration.violation?, Declaration.convention?,
    reads.kind, reads.modifiers, Binding.convention?]
  cases binding.kind.convention? _ with
  | none => rfl
  | some convention => rfl

theorem filterMap_eq_of_forall₂ {left right result : Type} {related : left → right → Prop}
    {fromLeft : left → Option result} {fromRight : right → Option result}
    (same : ∀ {a b}, related a b → fromRight b = fromLeft a)
    {lefts : List left} {rights : List right} (pairs : List.Forall₂ related lefts rights) :
    rights.filterMap fromRight = lefts.filterMap fromLeft := by
  induction pairs with
  | nil => rfl
  | cons first rest ih => rw [List.filterMap_cons, List.filterMap_cons, same first, ih]

/-- The violations of the sites that are read from a tree are those of its bindings. -/
theorem violations_eq {source : Utf8.Octets} {tree : SyntaxTree} {sites : List Site}
    (read : List.Forall₂ (SyntaxTree.Binding.Reads source) tree.bindings
      (sites.flatMap Site.tokens)) :
    (sites.flatMap fun site => site.declaration.violations) = tree.violations source := by
  have ofSite (site : Site) :
      site.declaration.violations =
        site.tokens.filterMap fun pair => pair.1.violation? pair.2 := by
    rw [Declaration.violations_eq_filterMap, Site.tokens, List.filterMap_map]
    rfl
  simp only [ofSite]
  rw [← List.filterMap_flatMap]
  exact filterMap_eq_of_forall₂ (fun reads => reads.violation?) read

/-! ## The findings -/

namespace Rule.Naming

/-- A list of words under `skip_kinds` is taken as it is, and nothing there as no words. -/
theorem skippedKinds_of_texts {options : Value} (kinds? : Option (List String))
    (chosen : options.getText "skip_kinds" =
      .ok (kinds?.map fun kinds => .list (kinds.map .text))) :
    skippedKinds options = .ok (kinds?.getD []) := by
  rw [skippedKinds, chosen]
  cases kinds? with
  | none => rfl
  | some kinds =>
      cases kinds with
      | nil => rfl
      | cons kind rest =>
          have hashable :
              ((kind :: rest).map Value.text).findSome? Value.unhashable? = none := by
            apply List.findSome?_eq_none_iff.mpr
            intro value member
            rcases List.mem_map.mp member with ⟨word, -, rfl⟩
            rfl
          have words : textsOf ((kind :: rest).map Value.text) = .ok (kind :: rest) := by
            rw [textsOf, hashable]
            simp [List.filterMap_map]
          exact words

/-- The rule reports the violations of the bindings, except those of skipped kinds. -/
theorem visit_eq {text : String} {tree : SyntaxTree} {options : Value} {skipped : List String}
    (file : String) (readable : tree.IsReadable (Utf8.encode text.toList))
    (skips : skippedKinds options = .ok skipped) :
    visit ⟨file, text, some tree, some language, options⟩ =
      .ok (((tree.violations (Utf8.encode text.toList)).filter
        fun violation => !skipped.contains violation.label).map (finding file)) := by
  rcases SyntaxTree.exists_allSites readable with ⟨sites, read, related⟩
  simp only [visit, if_pos, skips, read, findings, ← violations_eq related]
  rfl

theorem visit_eq_of_unskipped {text : String} {tree : SyntaxTree} {options : Value}
    (file : String) (readable : tree.IsReadable (Utf8.encode text.toList))
    (unskipped : skippedKinds options = .ok []) :
    visit ⟨file, text, some tree, some language, options⟩ =
      .ok ((tree.violations (Utf8.encode text.toList)).map (finding file)) := by
  rw [visit_eq file readable unskipped]
  simp

end Rule.Naming

/-! ## Spans -/

theorem Violation.ofToken?_eq_some_iff {label : String} {convention : Convention}
    {token : Token} {violation : Violation} :
    ofToken? label convention token = some violation ↔
      (token.conform convention).text ≠ token.text ∧
        violation = ⟨token.start, token.stop, label, token.text,
          (token.conform convention).text, convention⟩ := by
  rw [ofToken?]
  by_cases settled : (token.conform convention).text = token.text
  · simp [settled]
  · simp [settled, eq_comm]

namespace SyntaxTree.Binding

theorem violation?_eq_some_iff {source : Utf8.Octets} {binding : Binding}
    {violation : Violation} :
    binding.violation? source = some violation ↔
      ∃ token convention,
        binding.name.token source = .ok token ∧
          binding.convention? source = some convention ∧
          Violation.ofToken? binding.kind.label convention token = some violation := by
  rw [Binding.violation?]
  cases read : binding.name.token source with
  | error fault => simp
  | ok token =>
      cases governed : binding.convention? source with
      | none => simp
      | some convention => simp

theorem conform_text_of_conforms {source : Utf8.Octets} {binding : Binding} {token : Token}
    {convention : Convention}
    (read : binding.name.token source = .ok token)
    (governed : binding.convention? source = some convention)
    (conforms : binding.violation? source = none) :
    (token.conform convention).text = token.text := by
  by_contra changes
  have violated :=
    violation?_eq_some_iff.mpr
      ⟨token, convention, read, governed, Violation.ofToken?_eq_some_iff.mpr ⟨changes, rfl⟩⟩
  rw [violated] at conforms
  contradiction

theorem span_of_violation? {source : Utf8.Octets} {binding : Binding} {violation : Violation}
    (violated : binding.violation? source = some violation) :
    violation.start = binding.name.label.start ∧ violation.stop = binding.name.label.stop := by
  rcases violation?_eq_some_iff.mp violated with ⟨token, convention, read, -, found⟩
  rcases token_eq_ok_iff.mp read with ⟨value, -, rfl⟩
  rcases Violation.ofToken?_eq_some_iff.mp found with ⟨-, rfl⟩
  exact ⟨rfl, rfl⟩

theorem text_of_empty {source : Utf8.Octets} {tree : SyntaxTree}
    (spanned : tree.label.given? = none) (empty : tree.label.stop ≤ tree.label.start) :
    tree.text source = "" := by
  have size : tree.label.stop - tree.label.start = 0 := Nat.sub_eq_zero_of_le empty
  simp only [text, spanned, size, List.take_zero]
  rfl

/-- A name that takes up no place is not reported. -/
theorem lt_of_violation? {source : Utf8.Octets} {binding : Binding} {violation : Violation}
    (spanned : binding.name.label.given? = none)
    (violated : binding.violation? source = some violation) :
    binding.name.label.start < binding.name.label.stop := by
  rw [← Nat.not_le]
  intro empty
  rcases violation?_eq_some_iff.mp violated with ⟨token, convention, read, -, found⟩
  rcases token_eq_ok_iff.mp read with ⟨value, denoted, rfl⟩
  rw [text_of_empty spanned empty] at denoted found
  cases denoted
  have settled : ∀ start stop,
      (Token.conform convention ⟨"", "", start, stop, "", ""⟩).text = "" := by
    intro start stop
    rw [Token.conform_of_not_isBypassed convention rfl, Token.withValue_text, Name.conformText]
    exact congrArg String.ofList (Name.conform_nil convention)
  exact (Violation.ofToken?_eq_some_iff.mp found).1 (settled _ _)

end SyntaxTree.Binding

/-! ## Edits -/

namespace Violation

/-- The edit that mends a violation. -/
def edit (violation : Violation) : Edit :=
  ⟨violation.start, violation.stop, violation.corrected⟩

end Violation

namespace SyntaxTree

/-- The edits of the violations of a tree replace spans that do not overlap. -/
theorem pairwise_isApart_edits {isTip : String → Bool} {text : String} {tree : SyntaxTree}
    (namesAreTips : ∀ type, isNameType type → isTip type) (parsed : tree.IsTreeOf isTip text)
    (source : Utf8.Octets) :
    ((tree.violations source).map Violation.edit).Pairwise Edit.IsApart := by
  have separate := pairwise_isApart_names namesAreTips parsed.nested parsed.bare
  rw [names, List.pairwise_map] at separate
  rw [violations, List.pairwise_map, List.pairwise_filterMap]
  apply separate.imp
  intro left right apart leftViolation leftViolated rightViolation rightViolated
  rcases Binding.span_of_violation? leftViolated with ⟨leftStart, leftStop⟩
  rcases Binding.span_of_violation? rightViolated with ⟨rightStart, rightStop⟩
  rcases apart with before | after
  · exact Or.inl (Int.ofNat_le.mpr (by rw [leftStop, rightStart]; exact before))
  · exact Or.inr (Int.ofNat_le.mpr (by rw [rightStop, leftStart]; exact after))

theorem IsTreeOf.name_isOver {isTip : String → Bool} {text : String} {tree : SyntaxTree}
    (parsed : tree.IsTreeOf isTip text) {binding : Binding} (member : binding ∈ tree.bindings) :
    binding.name.IsOver text.toList :=
  parsed.onText _ (mem_nodes_of_mem_names (List.mem_map_of_mem member)).1

/-- The edits of the violations of a tree replace whole characters, and at least one. -/
theorem edit_of_violation? {isTip : String → Bool} {text : String} {tree : SyntaxTree}
    (parsed : tree.IsTreeOf isTip text) {source : Utf8.Octets} {binding : Binding}
    (member : binding ∈ tree.bindings) {violation : Violation}
    (violated : binding.violation? source = some violation) :
    violation.edit.IsProper ∧
      violation.edit.start.toNat ∈ Utf8.boundaries text.toList ∧
      violation.edit.stop.toNat ∈ Utf8.boundaries text.toList := by
  have onText := parsed.name_isOver member
  have nonempty := Binding.lt_of_violation? onText.spanned violated
  rcases Binding.span_of_violation? violated with ⟨start, stop⟩
  rw [← start, ← stop] at nonempty
  refine ⟨⟨Int.natCast_nonneg _, Int.ofNat_lt.mpr nonempty⟩, ?_, ?_⟩
  · rw [Violation.edit, Int.toNat_natCast, start]
    exact onText.starts
  · rw [Violation.edit, Int.toNat_natCast, stop]
    exact onText.stops

end SyntaxTree

/-! ## Collecting -/

/-- Proper edits that are apart from each other are all different. -/
theorem Edit.nodup_of_isApart {edits : List Edit}
    (separate : edits.Pairwise IsApart) (proper : ∀ edit ∈ edits, edit.IsProper) :
    edits.Nodup := by
  refine List.Pairwise.imp_of_mem ?_ separate
  rintro left right leftMember - apart rfl
  have nonempty := (proper left leftMember).2
  rcases apart with before | after
  · exact absurd nonempty (Int.not_lt.mpr before)
  · exact absurd nonempty (Int.not_lt.mpr after)

theorem Finding.addEdits_of_nodup {collected edits : List Edit}
    (distinct : (collected ++ edits).Nodup) :
    addEdits collected edits = collected ++ edits := by
  induction edits generalizing collected with
  | nil => simp [addEdits]
  | cons edit rest ih =>
      have new : collected.contains edit = false := by
        rw [Bool.eq_false_iff, ne_eq, List.contains_iff_mem]
        intro already
        exact (List.nodup_append.mp distinct).2.2 edit already edit List.mem_cons_self rfl
      rw [addEdits, new, if_neg Bool.false_ne_true, ih (by simpa using distinct)]
      simp

/-- The edits of the findings for violations are collected as they are if none comes twice. -/
theorem Rule.Naming.collectEdits_map_finding {violations : List Violation} (file : String)
    (distinct : (violations.map Violation.edit).Nodup) :
    Finding.collectEdits (violations.map (finding file)) = violations.map Violation.edit := by
  have edits :
      (violations.map (finding file)).flatMap Finding.edits = violations.map Violation.edit := by
    rw [List.flatMap_map, List.map_eq_flatMap]
    rfl
  rw [Finding.collectEdits, edits]
  exact Finding.addEdits_of_nodup distinct

end CasingLint
