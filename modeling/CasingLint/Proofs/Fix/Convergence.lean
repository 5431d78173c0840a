import CasingLint.Proofs.Fix.Exactness
import CasingLint.Proofs.SyntaxTree.Relocation

/-!
# Fixing settles a file

After the edits of all findings are applied, the same tree over the changed text, with
its offsets moved by the edits, is reported again only for field names that start one
way: lower-case characters that do not come back from upper case.  The argument follows
a binding through the edits.  Its modifiers keep their text, because a modifier is apart
from every name; so its convention stays.  Its name keeps its text if it conformed, and
holds the corrected spelling if it did not.
-/

namespace CasingLint

open CasingLint.Text

/-! ## A corrected spelling, read again -/

namespace Token

theorem isBypassed_eq_false_iff {token : Token} :
    token.isBypassed = false ↔
      token.text.toList.head? ≠ some '@' ∧ '\\' ∉ token.text.toList := by
  simp [isBypassed, isVerbatim, isEscaped]

/-- A token whose spelling has to change is spelled as its value. -/
theorem of_conform_text_ne {token : Token} {convention : Convention}
    (denoted : Escape.value token.text = .ok token.value)
    (changed : (token.conform convention).text ≠ token.text) :
    token.value = token.text ∧
      (token.conform convention).text = Name.conformText convention token.text ∧
      Name.isPlain token.text.toList = true := by
  cases bypassed : token.isBypassed with
  | true =>
      rw [conform_of_isBypassed convention bypassed] at changed
      contradiction
  | false =>
      rcases isBypassed_eq_false_iff.mp bypassed with ⟨notVerbatim, unescaped⟩
      rw [Escape.value_eq_self notVerbatim unescaped] at denoted
      have same : token.value = token.text := (Except.ok.inj denoted).symm
      rw [conform_of_not_isBypassed convention bypassed, withValue_text, same] at changed ⊢
      refine ⟨rfl, rfl, ?_⟩
      rw [← Bool.not_eq_false]
      intro special
      rw [Name.conformText, Name.conform_of_not_isPlain convention special,
        String.ofList_toList] at changed
      contradiction

/-- A corrected spelling has word characters and underscores only. -/
theorem isPlain_conform_text {token : Token} {convention : Convention}
    (denoted : Escape.value token.text = .ok token.value)
    (changed : (token.conform convention).text ≠ token.text) :
    Name.isPlain (token.conform convention).text.toList = true := by
  rcases of_conform_text_ne denoted changed with ⟨-, corrected, plain⟩
  rw [corrected, Name.conformText, String.toList_ofList, Name.isPlain_conform, plain]

/-- A corrected spelling has no escapes. -/
theorem not_mem_conform_text {token : Token} {convention : Convention}
    (denoted : Escape.value token.text = .ok token.value)
    (changed : (token.conform convention).text ≠ token.text) :
    '\\' ∉ (token.conform convention).text.toList := by
  intro escaped
  rcases Name.isPlain_iff.mp (isPlain_conform_text denoted changed) '\\' escaped with
    word | underscore
  · rw [Name.not_isWord_backslash] at word
    contradiction
  · contradiction

/-- A corrected spelling has to change again only if it starts one way, under the underscore. -/
theorem startsOneWay_of_conform_text_ne {token again : Token} {convention : Convention}
    (denoted : Escape.value token.text = .ok token.value)
    (changed : (token.conform convention).text ≠ token.text)
    (spelled : again.text = (token.conform convention).text)
    (denotedAgain : Escape.value again.text = .ok again.value)
    (changedAgain : (again.conform convention).text ≠ again.text) :
    convention = .underscoreLowerCamel ∧ Name.startsOneWay token.value.toList = true := by
  rcases of_conform_text_ne denoted changed with ⟨same, corrected, -⟩
  rcases of_conform_text_ne denotedAgain changedAgain with ⟨-, correctedAgain, -⟩
  rw [correctedAgain, spelled, corrected, ne_eq, Name.conformText_conformText_iff] at changedAgain
  rw [same]
  by_cases settles : convention = .underscoreLowerCamel
  · subst settles
    rw [Name.conform_conform_underscore_iff, Bool.not_eq_false] at changedAgain
    exact ⟨rfl, changedAgain⟩
  · exact absurd (Name.conform_conform_of_ne settles _) changedAgain

end Token

/-- Only the convention for fields looks at modifiers. -/
theorem Kind.convention?_of_ne_field {kind : Kind} (other : kind ≠ .field)
    (left right : Modifiers) :
    kind.convention? left = kind.convention? right := by
  cases kind with
  | field => contradiction
  | _ => rfl

theorem Kind.eq_field_of_convention? {kind : Kind} {modifiers : Modifiers}
    (governed : kind.convention? modifiers = some .underscoreLowerCamel) :
    kind = .field := by
  cases kind with
  | field => rfl
  | _ => simp [convention?] at governed

/-! ## Texts at moved places -/

namespace SyntaxTree

theorem text_eq_slice {tree : SyntaxTree} (spanned : tree.label.given? = none)
    (source : Utf8.Octets) :
    tree.text source =
      String.ofList
        (Utf8.decodeLossy (Edit.slice source tree.label.start tree.label.stop)) := by
  simp only [text, spanned]
  rfl

/-- A node that no edit touches keeps its text. -/
theorem text_relocate_of_untouched {source changed : Utf8.Octets} {edits : List Edit}
    (rewritten : Edit.Rewrites 0 source edits changed)
    (proper : ∀ edit ∈ edits, edit.IsProper)
    {tree : SyntaxTree} (spanned : tree.label.given? = none)
    (forward : tree.label.start ≤ tree.label.stop)
    (untouched : ∀ edit ∈ edits,
      edit.stop ≤ (tree.label.start : Int) ∨ (tree.label.stop : Int) ≤ edit.start) :
    (tree.relocate (Edit.moved edits)).text changed = tree.text source := by
  rw [text_eq_slice (by simpa using spanned), text_eq_slice spanned, label_relocate,
    rewritten.slice_moved_of_untouched proper forward untouched]

/-- A node whose span an edit replaces has the replacement as its text. -/
theorem text_relocate_of_mem {source changed : Utf8.Octets} {edits : List Edit}
    (rewritten : Edit.Rewrites 0 source edits changed)
    (proper : ∀ edit ∈ edits, edit.IsProper)
    {tree : SyntaxTree} (spanned : tree.label.given? = none)
    {replacement : String}
    (member : ⟨tree.label.start, tree.label.stop, replacement⟩ ∈ edits) :
    (tree.relocate (Edit.moved edits)).text changed = replacement := by
  have replaced := rewritten.slice_moved_of_mem proper member
  rw [Int.toNat_natCast, Int.toNat_natCast] at replaced
  rw [text_eq_slice (by simpa using spanned), label_relocate, replaced,
    Utf8.decodeLossy_encode, String.ofList_toList]

/-! ## Bindings at moved places -/

/-- The types of the nodes below which no name may stand. -/
def isNameOrModifierType (type : String) : Bool :=
  isNameType type || type == "modifier"

/-- The octets of a text with all violations of its tree mended. -/
structure IsMended (text : String) (tree : SyntaxTree) (edits : List Edit)
    (changed : Utf8.Octets) : Prop where
  parsed : tree.IsTreeOf isNameOrModifierType text
  complete : edits.Perm ((tree.violations (Utf8.encode text.toList)).map Violation.edit)
  rewritten : Edit.Rewrites 0 (Utf8.encode text.toList) edits changed

namespace IsMended

variable {text : String} {tree : SyntaxTree} {edits : List Edit} {changed : Utf8.Octets}

theorem namesAreTips : ∀ type, isNameType type → isNameOrModifierType type := by
  intro type isName
  simp [isNameOrModifierType, isName]

theorem mem_iff (mended : IsMended text tree edits changed) {edit : Edit} :
    edit ∈ edits ↔
      ∃ binding ∈ tree.bindings, ∃ violation,
        binding.violation? (Utf8.encode text.toList) = some violation ∧
          violation.edit = edit := by
  rw [mended.complete.mem_iff, List.mem_map]
  constructor
  · rintro ⟨violation, reported, same⟩
    rcases List.mem_filterMap.mp reported with ⟨binding, bound, violated⟩
    exact ⟨binding, bound, violation, violated, same⟩
  · rintro ⟨binding, bound, violation, violated, same⟩
    exact ⟨violation, List.mem_filterMap.mpr ⟨binding, bound, violated⟩, same⟩

theorem proper (mended : IsMended text tree edits changed) :
    ∀ edit ∈ edits, edit.IsProper := by
  intro edit member
  rcases mended.mem_iff.mp member with ⟨binding, bound, violation, violated, rfl⟩
  exact (edit_of_violation? mended.parsed bound violated).1

/-- A node that is apart from every name with a violation keeps its text. -/
theorem text_relocate (mended : IsMended text tree edits changed)
    {found : SyntaxTree} (member : found ∈ tree.nodes)
    (separate : ∀ binding ∈ tree.bindings,
      binding.violation? (Utf8.encode text.toList) ≠ none → IsApart binding.name found) :
    (found.relocate (Edit.moved edits)).text changed =
      found.text (Utf8.encode text.toList) := by
  refine text_relocate_of_untouched mended.rewritten mended.proper
    (mended.parsed.onText found member).spanned (mended.parsed.nested found member).forward ?_
  intro edit editMember
  rcases mended.mem_iff.mp editMember with ⟨binding, bound, violation, violated, rfl⟩
  rcases Binding.span_of_violation? violated with ⟨start, stop⟩
  rcases separate binding bound (by simp [violated]) with before | after
  · exact Or.inl (Int.ofNat_le.mpr (by rw [stop]; exact before))
  · exact Or.inr (Int.ofNat_le.mpr (by rw [start]; exact after))

/-- The modifiers of a field keep their text. -/
theorem text_relocate_modifier (mended : IsMended text tree edits changed)
    {binding : Binding} (bound : binding ∈ tree.bindings) (field : binding.kind = .field)
    {modifier : SyntaxTree} (written : modifier ∈ binding.modifiers) :
    (modifier.relocate (Edit.moved edits)).text changed =
      modifier.text (Utf8.encode text.toList) := by
  rcases mem_tips_of_mem_modifiers (by decide) mended.parsed.bare bound field written with
    ⟨tip, isModifier⟩
  apply mended.text_relocate (mem_nodes_of_mem_tips tip)
  intro other otherBound _
  have named : other.name ∈ tree.names := List.mem_map_of_mem otherBound
  have nameTip : other.name ∈ tree.tips isNameOrModifierType :=
    (subperm_tips namesAreTips mended.parsed.bare).subset (List.mem_append_right _ named)
  apply (pairwise_isApart_tips mended.parsed.nested).forall nameTip tip
  rintro rfl
  have isName := (mem_nodes_of_mem_names named).2
  rw [isModifier] at isName
  contradiction

theorem convention?_relocate (mended : IsMended text tree edits changed)
    {binding : Binding} (bound : binding ∈ tree.bindings) :
    (binding.relocate (Edit.moved edits)).convention? changed =
      binding.convention? (Utf8.encode text.toList) := by
  by_cases field : binding.kind = .field
  · have same :
        (binding.modifiers.map (relocate (Edit.moved edits))).map (SyntaxTree.text changed) =
          binding.modifiers.map (SyntaxTree.text (Utf8.encode text.toList)) := by
      rw [List.map_map]
      apply List.map_congr_left
      intro modifier written
      exact mended.text_relocate_modifier bound field written
    rw [Binding.convention?, Binding.convention?, Binding.relocate, same]
  · rw [Binding.convention?, Binding.convention?, Binding.relocate]
    exact Kind.convention?_of_ne_field field _ _

theorem text_relocate_name (mended : IsMended text tree edits changed)
    {binding : Binding} (bound : binding ∈ tree.bindings)
    (conforms : binding.violation? (Utf8.encode text.toList) = none) :
    (binding.name.relocate (Edit.moved edits)).text changed =
      binding.name.text (Utf8.encode text.toList) := by
  have named : binding.name ∈ tree.names := List.mem_map_of_mem bound
  apply mended.text_relocate (mem_nodes_of_mem_names named).1
  intro other otherBound violated
  have separate := pairwise_isApart_names namesAreTips mended.parsed.nested mended.parsed.bare
  rw [names, List.pairwise_map] at separate
  -- Two bindings at one place would be equal, and this one has no violation.
  have : Std.Symm fun left right : Binding => IsApart left.name right.name :=
    ⟨fun _ _ => Or.symm⟩
  apply separate.forall otherBound bound
  rintro rfl
  exact violated conforms

/-- A name that does not conform gets the corrected spelling. -/
theorem text_relocate_violation (mended : IsMended text tree edits changed)
    {binding : Binding} (bound : binding ∈ tree.bindings) {violation : Violation}
    (violated : binding.violation? (Utf8.encode text.toList) = some violation) :
    (binding.name.relocate (Edit.moved edits)).text changed = violation.corrected := by
  have edited : violation.edit ∈ edits :=
    mended.mem_iff.mpr ⟨binding, bound, violation, violated, rfl⟩
  rcases Binding.span_of_violation? violated with ⟨start, stop⟩
  rw [Violation.edit, start, stop] at edited
  exact text_relocate_of_mem mended.rewritten mended.proper
    (mended.parsed.name_isOver bound).spanned edited

theorem isReadable_relocate (mended : IsMended text tree edits changed)
    (readable : tree.IsReadable (Utf8.encode text.toList)) :
    (tree.relocate (Edit.moved edits)).IsReadable changed := by
  rw [isReadable_iff, Readable, bindings_relocate, List.forall_mem_map]
  intro binding bound
  rw [Binding.relocate]
  dsimp only
  cases violated : binding.violation? (Utf8.encode text.toList) with
  | none =>
      rw [mended.text_relocate_name bound violated]
      exact isReadable_iff.mp readable binding bound
  | some violation =>
      rw [mended.text_relocate_violation bound violated]
      rcases Binding.violation?_eq_some_iff.mp violated with ⟨token, convention, read, -, found⟩
      rcases Violation.ofToken?_eq_some_iff.mp found with ⟨changes, rfl⟩
      have denoted := (token_spec read).2.1
      exact Escape.isInRange_of_not_mem (Token.not_mem_conform_text denoted changes)

/-- The same spelling under the same convention conforms again. -/
theorem violation?_relocate_eq_none (mended : IsMended text tree edits changed)
    {binding : Binding} (bound : binding ∈ tree.bindings)
    (conforms : binding.violation? (Utf8.encode text.toList) = none) :
    (binding.relocate (Edit.moved edits)).violation? changed = none := by
  rw [Option.eq_none_iff_forall_ne_some]
  intro again violatedAgain
  rcases Binding.violation?_eq_some_iff.mp violatedAgain with
    ⟨tokenAgain, convention, readAgain, governed, foundAgain⟩
  rw [mended.convention?_relocate bound] at governed
  rcases token_spec readAgain with ⟨spelledAgain, denotedAgain, -, -⟩
  have same : tokenAgain.text = binding.name.text (Utf8.encode text.toList) :=
    spelledAgain.trans (mended.text_relocate_name bound conforms)
  rw [same] at denotedAgain
  obtain ⟨token, read⟩ :
      ∃ token, binding.name.token (Utf8.encode text.toList) = .ok token :=
    ⟨_, token_eq_ok_iff.mpr ⟨tokenAgain.value, denotedAgain, rfl⟩⟩
  rcases token_spec read with ⟨spelled, denoted, -, -⟩
  rw [spelled] at denoted
  have sameText : tokenAgain.text = token.text := same.trans spelled.symm
  have sameValue : tokenAgain.value = token.value :=
    Except.ok.inj (denotedAgain.symm.trans denoted)
  apply (Violation.ofToken?_eq_some_iff.mp foundAgain).1
  rw [Token.conform_text_congr convention sameText sameValue, sameText]
  exact Binding.conform_text_of_conforms read governed conforms

/-- A name that is reported again starts one way, and stands where the edits moved it. -/
theorem of_violation?_relocate (mended : IsMended text tree edits changed)
    {binding : Binding} (bound : binding ∈ tree.bindings) {again : Violation}
    (violatedAgain :
      (binding.relocate (Edit.moved edits)).violation? changed = some again) :
    ∃ token,
      binding.name.token (Utf8.encode text.toList) = .ok token ∧
        binding.convention? (Utf8.encode text.toList) = some .underscoreLowerCamel ∧
        Name.startsOneWay token.value.toList = true ∧
        again.start = Edit.moved edits token.start ∧
        again.stop = Edit.moved edits token.stop := by
  cases violated : binding.violation? (Utf8.encode text.toList) with
  | none =>
      rw [mended.violation?_relocate_eq_none bound violated] at violatedAgain
      contradiction
  | some violation =>
      rcases Binding.violation?_eq_some_iff.mp violatedAgain with
        ⟨tokenAgain, convention, readAgain, governed, foundAgain⟩
      rw [mended.convention?_relocate bound] at governed
      rcases token_spec readAgain with ⟨spelledAgain, denotedAgain, startAgain, stopAgain⟩
      rcases Violation.ofToken?_eq_some_iff.mp foundAgain with ⟨changesAgain, rfl⟩
      rcases Binding.violation?_eq_some_iff.mp violated with
        ⟨token, other, read, governedFirst, found⟩
      obtain rfl : convention = other := Option.some.inj (governed.symm.trans governedFirst)
      rcases token_spec read with ⟨-, denoted, start, stop⟩
      have corrected := spelledAgain.trans (mended.text_relocate_violation bound violated)
      rcases Violation.ofToken?_eq_some_iff.mp found with ⟨changes, rfl⟩
      rcases
          Token.startsOneWay_of_conform_text_ne denoted changes corrected
            denotedAgain changesAgain with
        ⟨rfl, oneWay⟩
      refine ⟨token, read, governed, oneWay, ?_, ?_⟩
      · rw [startAgain, start]
        exact congrArg NodeLabel.start (label_relocate (Edit.moved edits) binding.name)
      · rw [stopAgain, stop]
        exact congrArg NodeLabel.stop (label_relocate (Edit.moved edits) binding.name)

end IsMended

theorem exists_reads {source : Utf8.Octets} {found : List Binding} {sites : List Site}
    (read : List.Forall₂ (Binding.Reads source) found (sites.flatMap Site.tokens))
    {binding : Binding} (member : binding ∈ found) :
    ∃ site ∈ sites, ∃ token ∈ site.declaration.identifiers,
      binding.Reads source (site.declaration, token) := by
  rcases Outcome.exists_of_forall₂ read member with ⟨pair, pairMember, reads⟩
  rcases List.mem_flatMap.mp pairMember with ⟨site, siteMember, declared⟩
  rcases List.mem_map.mp declared with ⟨token, tokenMember, rfl⟩
  exact ⟨site, siteMember, token, tokenMember, reads⟩

end SyntaxTree

/-! ## The second pass -/

/--
The naming rule, run again on the mended text and the moved tree, reports at most fields
under the underscore convention whose names started one way, at their moved places.
-/
theorem Rule.Naming.visit_mended {text : String} {tree : SyntaxTree} {options : Value}
    (file : String)
    (parsed : tree.IsTreeOf SyntaxTree.isNameOrModifierType text)
    (readable : tree.IsReadable (Utf8.encode text.toList))
    (unskipped : skippedKinds options = .ok []) :
    ∃ findings sites mended again,
      visit ⟨file, text, some tree, some language, options⟩ = .ok findings ∧
        tree.allSites (Utf8.encode text.toList) = .ok sites ∧
        Edit.applyAll text (Finding.collectEdits findings) = .ok mended ∧
        visit ⟨file, mended,
          some (tree.relocate (Edit.moved (Finding.collectEdits findings))),
          some language, options⟩ = .ok again ∧
        ∀ finding ∈ again,
          ∃ site ∈ sites, ∃ token ∈ site.declaration.identifiers,
            site.declaration.kind = .field ∧
              site.declaration.convention? = some .underscoreLowerCamel ∧
              Name.startsOneWay token.value.toList = true ∧
              finding.start = Edit.moved (Finding.collectEdits findings) token.start ∧
              finding.stop = Edit.moved (Finding.collectEdits findings) token.stop := by
  rcases SyntaxTree.exists_allSites readable with ⟨sites, readSites, related⟩
  rcases
      SyntaxTree.exists_applyAll SyntaxTree.IsMended.namesAreTips parsed (List.Sublist.refl
        (tree.violations (Utf8.encode text.toList))) with
    ⟨distinct, -, mended, applied, rewritten⟩
  have settled : SyntaxTree.IsMended text tree _ (Utf8.encode mended.toList) :=
    ⟨parsed, Edit.ordered_perm _, rewritten⟩
  -- Sorting the edits does not change where they move an offset.
  have places :
      Edit.moved (Edit.ordered
          ((tree.violations (Utf8.encode text.toList)).map Violation.edit)) =
        Edit.moved ((tree.violations (Utf8.encode text.toList)).map Violation.edit) := by
    funext offset
    exact Edit.moved_perm (Edit.ordered_perm _) offset
  have first := visit_eq_of_unskipped file readable unskipped
  have second := visit_eq_of_unskipped file (settled.isReadable_relocate readable) unskipped
  rw [places] at second
  refine ⟨(tree.violations (Utf8.encode text.toList)).map (finding file), sites, mended, ?_⟩
  rw [collectEdits_map_finding file distinct]
  refine ⟨_, first, readSites, applied, second, ?_⟩
  intro finding member
  rcases List.mem_map.mp member with ⟨again, reported, rfl⟩
  rw [SyntaxTree.violations, SyntaxTree.bindings_relocate, List.filterMap_map, ← places]
    at reported
  rcases List.mem_filterMap.mp reported with ⟨binding, bound, violatedAgain⟩
  rcases settled.of_violation?_relocate bound violatedAgain with
    ⟨token, read, governed, oneWay, start, stop⟩
  rcases SyntaxTree.exists_reads related bound with ⟨site, siteMember, other, tokenMember, reads⟩
  obtain rfl : token = other := Except.ok.inj (read.symm.trans reads.token)
  have convention : site.declaration.convention? = some .underscoreLowerCamel := by
    rw [Declaration.convention?, reads.kind, reads.modifiers]
    exact governed
  rw [places] at start stop
  exact ⟨site, siteMember, token, tokenMember, Kind.eq_field_of_convention? convention,
    convention, oneWay, congrArg Nat.cast start, congrArg Nat.cast stop⟩

/-- The sample, mended, is not reported again. -/
theorem Rule.Naming.visit_mended_sample :
    Sample.tree.IsTreeOf SyntaxTree.isNameOrModifierType Sample.text ∧
      Sample.tree.IsReadable (Utf8.encode Sample.text.toList) ∧
      skippedKinds (.record [("skip_kinds", .list [])]) = .ok [] ∧
      (visit ⟨"sample.cs", "class Été \x7b int _baz; public int Bar; \x7d",
          some (Sample.tree.relocate
            (Edit.moved [⟨6, 11, "Été"⟩, ⟨18, 21, "_baz"⟩, ⟨34, 37, "Bar"⟩])),
          some language, .record [("skip_kinds", .list [])]⟩).toOption.map List.length =
        some 0 ∧
      ∃ findings sites mended again,
        visit ⟨"sample.cs", Sample.text, some Sample.tree, some language,
            .record [("skip_kinds", .list [])]⟩ = .ok findings ∧
          Sample.tree.allSites (Utf8.encode Sample.text.toList) = .ok sites ∧
          Edit.applyAll Sample.text (Finding.collectEdits findings) = .ok mended ∧
          visit ⟨"sample.cs", mended,
            some (Sample.tree.relocate (Edit.moved (Finding.collectEdits findings))),
            some language, .record [("skip_kinds", .list [])]⟩ = .ok again ∧
          ∀ finding ∈ again,
            ∃ site ∈ sites, ∃ token ∈ site.declaration.identifiers,
              site.declaration.kind = .field ∧
                site.declaration.convention? = some .underscoreLowerCamel ∧
                Name.startsOneWay token.value.toList = true ∧
                finding.start = Edit.moved (Finding.collectEdits findings) token.start ∧
                finding.stop = Edit.moved (Finding.collectEdits findings) token.stop :=
  ⟨by decide +kernel, by decide +kernel, rfl, by decide +kernel,
    visit_mended "sample.cs" (by decide +kernel) (by decide +kernel) rfl⟩

end CasingLint
