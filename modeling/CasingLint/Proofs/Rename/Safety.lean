import CasingLint.Proofs.Fix.Convergence
import CasingLint.Proofs.SyntaxTree.Nesting

/-!
# Renaming is safe

Whether the naming rule reports a name or it is renamed at a place, the edit is that of a
token under some convention.  Such an edit exists only if the token is spelled out plainly,
with letters, numerals and underscores, and with something besides underscores.  Then the
token is its own value, and the new spelling is a plain name again, which is not empty.

None of this needs the whole tree to be read: a fault in one name hides the names after
it, and the edits for those before it are safe all the same.
-/

namespace CasingLint

open CasingLint.Text

/-! ## Names that can change -/

namespace Name

/-- A spelling of letters, numerals and underscores, neither verbatim nor escaped nor blank. -/
structure IsRenamable (name : List Char) : Prop where
  notVerbatim : name.head? ≠ some '@'
  unescaped : '\\' ∉ name
  plain : ∀ character ∈ name, isWord character = true ∨ character = '_'
  named : ∃ character ∈ name, character ≠ '_'

theorem shape_ne_nil (convention : Convention) (first : Char) (rest : List Char) :
    shape convention first rest ≠ [] := by
  cases convention with
  | lowerCamel => exact List.cons_ne_nil _ _
  | upperCamel => exact List.cons_ne_nil _ _
  | underscoreLowerCamel =>
      simp only [shape]
      split_ifs <;> exact List.cons_ne_nil _ _
  | interfaceUpperCamel =>
      simp only [shape]
      split_ifs
      · exact List.cons_ne_nil _ _
      · exact List.cons_ne_nil _ _
      · cases rest with
        | nil => exact List.cons_ne_nil _ _
        | cons second tail =>
            dsimp only
            split_ifs <;> exact List.cons_ne_nil _ _

/-- A name that changes is more than underscores, and it does not change into nothing. -/
theorem of_conformText_ne {convention : Convention} {name : String}
    (changed : conformText convention name ≠ name) :
    (∃ character ∈ name.toList, character ≠ '_') ∧ conformText convention name ≠ "" := by
  rw [conformText] at changed ⊢
  rcases conform_cases convention name.toList with
    ⟨unchanged, -⟩ | ⟨first, rest, plain, normal, -, shaped⟩
  · rw [unchanged, String.ofList_toList] at changed
    contradiction
  · constructor
    · by_contra blank
      push Not at blank
      rw [(normalize_eq_nil_iff plain).mpr blank] at normal
      contradiction
    · rw [shaped, ne_eq, String.ofList_eq_empty_iff]
      exact shape_ne_nil convention first rest

end Name

/-! ## The edit of one token -/

/-- An edit that puts another plain name in the place of a plainly spelled token. -/
structure Edit.IsSafeFor (edit : Edit) (token : Token) : Prop where
  start : edit.start = token.start
  stop : edit.stop = token.stop
  renamable : Name.IsRenamable token.text.toList
  changes : edit.replacement ≠ token.text
  named : edit.replacement ≠ ""
  plain : ∀ character ∈ edit.replacement.toList,
    Name.isWord character = true ∨ character = '_'

namespace Token

theorem conformEdit?_eq_some_iff {convention : Convention} {token : Token} {edit : Edit} :
    token.conformEdit? convention = some edit ↔
      (token.conform convention).text ≠ token.text ∧
        edit = ⟨token.start, token.stop, (token.conform convention).text⟩ := by
  rw [conformEdit?]
  split_ifs with unchanged
  · simp [unchanged]
  · simp [unchanged, eq_comm]

theorem isBypassed_of_conform_text_ne {convention : Convention} {token : Token}
    (changed : (token.conform convention).text ≠ token.text) :
    token.isBypassed = false := by
  rw [← Bool.not_eq_true]
  intro bypassed
  exact changed (congrArg text (conform_of_isBypassed convention bypassed))

/-- The edit of a token that has the value of its spelling is safe under every convention. -/
theorem isSafeFor_of_conformEdit? {convention : Convention} {token : Token} {edit : Edit}
    (denoted : Escape.value token.text = .ok token.value)
    (found : token.conformEdit? convention = some edit) :
    edit.IsSafeFor token := by
  rcases conformEdit?_eq_some_iff.mp found with ⟨changed, rfl⟩
  rcases isBypassed_eq_false_iff.mp (isBypassed_of_conform_text_ne changed) with
    ⟨notVerbatim, unescaped⟩
  rcases of_conform_text_ne denoted changed with ⟨-, corrected, plain⟩
  have nameChanges : Name.conformText convention token.text ≠ token.text := by
    rw [← corrected]
    exact changed
  rcases Name.of_conformText_ne nameChanges with ⟨named, stillNamed⟩
  constructor
  case start => rfl
  case stop => rfl
  case renamable => exact ⟨notVerbatim, unescaped, Name.isPlain_iff.mp plain, named⟩
  case changes => exact changed
  case named =>
    show (token.conform convention).text ≠ ""
    rw [corrected]
    exact stillNamed
  case plain => exact Name.isPlain_iff.mp (isPlain_conform_text denoted changed)

end Token

/-! ## The names of a tree that may hold faults -/

namespace SyntaxTree

/-- One of the nodes of the tree spells the token. -/
def Spells (source : Utf8.Octets) (tree : SyntaxTree) (token : Token) : Prop :=
  ∃ name ∈ tree.nodes, name.token source = .ok token

section Reading

variable {source : Utf8.Octets}

theorem Spells.ofChild {tree child : SyntaxTree} {token : Token}
    (spells : child.Spells source token) (member : child ∈ tree.children) :
    tree.Spells source token := by
  rcases spells with ⟨name, below, read⟩
  exact ⟨name, mem_nodes_of_mem_children member below, read⟩

theorem sitesBelow_eq (type : String) (siblings : List SyntaxTree) (outer : List Declaration)
    (trees : List SyntaxTree) :
    sitesIn.sitesBelow source type siblings outer trees =
      trees.flatMap fun child =>
        if isLoose type child then [(declareLoose source siblings child).map (⟨·, outer⟩)]
        else sitesIn source outer child := by
  induction trees with
  | nil => rfl
  | cons child rest ih =>
      rw [sitesIn.sitesBelow, List.flatMap_cons, ih]
      simp only [isLoose_iff]

/-- What is declared below a node is spelled there if every child spells its own names. -/
theorem spells_of_mem_sitesBelow {type : String} {siblings trees : List SyntaxTree}
    {outer : List Declaration} {site : Site} {token : Token}
    (each : ∀ child ∈ trees, .ok site ∈ sitesIn source outer child → child.Spells source token)
    (member : .ok site ∈ sitesIn.sitesBelow source type siblings outer trees)
    (declared : token ∈ site.declaration.identifiers) :
    ∃ child ∈ trees, child.Spells source token := by
  rw [sitesBelow_eq] at member
  rcases List.mem_flatMap.mp member with ⟨child, childMember, inChild⟩
  refine ⟨child, childMember, ?_⟩
  split at inChild
  · have isSite := (List.mem_singleton.mp inChild).symm
    rcases Outcome.map_eq_ok_iff.mp isSite with ⟨declaration, made, rfl⟩
    have read := ((isDeclaredLoose_of_declareLoose made).token token).mp declared
    exact ⟨child, mem_nodes_self child, read⟩
  · exact each child childMember inChild

/-- Every name that is declared in a tree is spelled there, whether or not the rest is read. -/
theorem spells_of_mem_sitesIn {tree : SyntaxTree} {outer : List Declaration} {site : Site}
    {token : Token} (member : .ok site ∈ sitesIn source outer tree)
    (declared : token ∈ site.declaration.identifiers) :
    tree.Spells source token := by
  induction tree generalizing outer with
  | node label children ih =>
      have below {outer : List Declaration}
          (member : .ok site ∈
            sitesIn.sitesBelow source label.type children outer children) :
          (node label children).Spells source token := by
        rcases spells_of_mem_sitesBelow (fun child childMember => ih child childMember) member
          declared with ⟨child, childMember, spells⟩
        exact spells.ofChild childMember
      rw [sitesIn] at member
      split at member
      · exact below member
      · split at member
        · rw [List.mem_singleton] at member
          contradiction
        · rename_i kind _ declaration made
          rcases List.mem_cons.mp member with isSite | later
          · cases isSite
            rcases ((isDeclaredBy_of_declare made).token token).mp declared with
              ⟨name, own, read⟩
            exact ⟨name, mem_nodes_of_mem_nameNodes own, read⟩
          · exact below later

end Reading

/-- An edit that renames a name declared in a tree, and does so safely. -/
structure Renames (source : Utf8.Octets) (tree : SyntaxTree) (token : Token) (edit : Edit) :
    Prop where
  declared : ∃ site, .ok site ∈ tree.sites source ∧ token ∈ site.declaration.identifiers
  spelled : tree.Spells source token
  safe : edit.IsSafeFor token

/-- The edit of a declared name under any convention renames it. -/
theorem renames_of_conformEdit? {source : Utf8.Octets} {tree : SyntaxTree} {site : Site}
    {token : Token} {convention : Convention} {edit : Edit}
    (member : .ok site ∈ tree.sites source) (declared : token ∈ site.declaration.identifiers)
    (found : token.conformEdit? convention = some edit) :
    tree.Renames source token edit := by
  rcases spells_of_mem_sitesIn member declared with ⟨name, below, read⟩
  have denoted := (token_spec read).2.1
  constructor
  · exact ⟨site, member, declared⟩
  · exact ⟨name, below, read⟩
  · exact Token.isSafeFor_of_conformEdit? denoted found

end SyntaxTree

/-! ## The two ways to a new name -/

theorem Violation.conformEdit?_of_ofToken? {label : String} {convention : Convention}
    {token : Token} {violation : Violation}
    (found : ofToken? label convention token = some violation) :
    token.conformEdit? convention = some violation.edit := by
  rcases ofToken?_eq_some_iff.mp found with ⟨changes, rfl⟩
  exact Token.conformEdit?_eq_some_iff.mpr ⟨changes, rfl⟩

/-- A violation of a declaration is mended by the edit of one of its tokens. -/
theorem Declaration.exists_conformEdit? {declaration : Declaration} {violation : Violation}
    (violated : violation ∈ declaration.violations) :
    ∃ token ∈ declaration.identifiers, ∃ convention,
      token.conformEdit? convention = some violation.edit := by
  rw [violations_eq_filterMap] at violated
  rcases List.mem_filterMap.mp violated with ⟨token, declared, found⟩
  rcases Option.bind_eq_some_iff.mp found with ⟨convention, -, ofToken⟩
  exact ⟨token, declared, convention, Violation.conformEdit?_of_ofToken? ofToken⟩

/-- What the naming rule reports are violations of declarations of the tree that it sees. -/
theorem Rule.Naming.exists_violation_of_visit {context : RuleContext} {findings : List Finding}
    (reports : visit context = .ok findings) {reported : Finding}
    (member : reported ∈ findings) :
    ∃ tree site violation,
      context.tree? = some tree ∧
        .ok site ∈ tree.sites (Utf8.encode context.text.toList) ∧
        violation ∈ site.declaration.violations ∧
        reported = finding context.file violation := by
  rw [visit] at reports
  split at reports
  · rename_i spoken tree _ isTree
    split at reports
    · rcases Outcome.bind_eq_ok_iff.mp reports with ⟨skipped, -, reports⟩
      rcases Outcome.bind_eq_ok_iff.mp reports with ⟨sites, read, same⟩
      cases same
      cases all : tree.allSites (Utf8.encode context.text.toList) with
      | error fault =>
          rw [all] at read
          contradiction
      | ok found =>
          rw [all] at read
          cases read
          rcases List.mem_map.mp member with ⟨violation, kept, rfl⟩
          rcases List.mem_flatMap.mp (List.mem_filter.mp kept).1 with ⟨site, inSites, violated⟩
          refine ⟨tree, site, violation, isTree, ?_, violated, rfl⟩
          rw [SyntaxTree.sites_eq_of_allSites all]
          exact List.mem_map_of_mem inSites
    · cases reports
      contradiction
  · cases reports
    contradiction

theorem mem_of_findName {offset : Int} {results : List (Except Escape.Fault Site)} {site : Site}
    {token : Token} (found : findName offset results = .ok (some (site, token))) :
    .ok site ∈ results ∧ token ∈ site.declaration.identifiers ∧ token.covers offset = true := by
  induction results with
  | nil => cases found
  | cons result rest ih =>
      cases result with
      | error fault => cases found
      | ok first =>
          rw [findName] at found
          split at found
          · rename_i own covers
            cases found
            exact ⟨List.mem_cons_self, List.mem_of_find?_eq_some covers,
              List.find?_some covers⟩
          · rcases ih found with ⟨later, declared, covers⟩
            exact ⟨List.mem_cons_of_mem _ later, declared, covers⟩

theorem Site.renameEdit?_eq (site : Site) (token : Token) :
    site.renameEdit? token = site.governing?.bind token.conformEdit? := by
  rw [renameEdit?]
  cases site.governing? with
  | none => rfl
  | some convention => rfl

/-- Renaming at a place makes the edit of the declared name that is found there. -/
theorem exists_token_of_renameEdit {source : Utf8.Octets} {tree : SyntaxTree} {offset : Int}
    {edit : Edit} (renamed : renameEdit source tree offset = .ok (some edit)) :
    ∃ site token convention,
      .ok site ∈ tree.sites source ∧ token ∈ site.declaration.identifiers ∧
        tokenAt source tree offset = .ok (some token) ∧ token.covers offset = true ∧
        token.conformEdit? convention = some edit := by
  rcases Outcome.bind_eq_ok_iff.mp renamed with ⟨name?, found, same⟩
  rcases Option.bind_eq_some_iff.mp (Except.ok.inj same) with ⟨⟨site, token⟩, rfl, edited⟩
  rcases mem_of_findName found with ⟨member, declared, covers⟩
  dsimp only at edited
  rw [Site.renameEdit?_eq] at edited
  rcases Option.bind_eq_some_iff.mp edited with ⟨convention, -, conforms⟩
  refine ⟨site, token, convention, member, declared, ?_, covers, conforms⟩
  rw [tokenAt, found]
  rfl

/--
Every edit for a name is safe, for every text and every tree.  This holds of the violations
that are met before the reading of the tree ends or breaks off, of all edits in what the
naming rule reports, and of the edit that renames at a place, which is for the name that is
found there.
-/
theorem renames_of_proposed (text : String) (tree : SyntaxTree) :
    (∀ site, .ok site ∈ tree.sites (Utf8.encode text.toList) →
        ∀ violation ∈ site.declaration.violations,
          ∃ token ∈ site.declaration.identifiers,
            tree.Renames (Utf8.encode text.toList) token violation.edit) ∧
      (∀ context findings, context.text = text → context.tree? = some tree →
        Rule.Naming.visit context = .ok findings →
          ∀ finding ∈ findings, ∃ edit token,
            finding.autofix = some [edit] ∧
              tree.Renames (Utf8.encode text.toList) token edit) ∧
      ∀ offset edit, renameEdit (Utf8.encode text.toList) tree offset = .ok (some edit) →
        ∃ token,
          tokenAt (Utf8.encode text.toList) tree offset = .ok (some token) ∧
            token.covers offset = true ∧
            tree.Renames (Utf8.encode text.toList) token edit := by
  have violations : ∀ site, .ok site ∈ tree.sites (Utf8.encode text.toList) →
      ∀ violation ∈ site.declaration.violations, ∃ token ∈ site.declaration.identifiers,
        tree.Renames (Utf8.encode text.toList) token violation.edit := by
    intro site member violation violated
    rcases Declaration.exists_conformEdit? violated with ⟨token, declared, convention, found⟩
    exact ⟨token, declared, SyntaxTree.renames_of_conformEdit? member declared found⟩
  refine ⟨violations, ?_, ?_⟩
  · rintro context findings rfl isTree reports finding member
    rcases Rule.Naming.exists_violation_of_visit reports member with
      ⟨seen, site, violation, isSeen, siteMember, violated, rfl⟩
    obtain rfl : tree = seen := Option.some.inj (isTree.symm.trans isSeen)
    rcases violations site siteMember violation violated with ⟨token, -, renames⟩
    exact ⟨violation.edit, token, rfl, renames⟩
  · intro offset edit renamed
    rcases exists_token_of_renameEdit renamed with
      ⟨site, token, convention, member, declared, found, covers, conforms⟩
    exact ⟨token, found, covers, SyntaxTree.renames_of_conformEdit? member declared conforms⟩

/-- The three names that the rule reports in the sample are renamed safely, one at a place. -/
theorem renames_of_proposed_sample :
    (∃ findings, Rule.Naming.visit Sample.context = .ok findings ∧ findings.length = 3 ∧
        ∀ finding ∈ findings, ∃ edit token,
          finding.autofix = some [edit] ∧
            Sample.tree.Renames (Utf8.encode Sample.text.toList) token edit) ∧
      renameEdit (Utf8.encode Sample.text.toList) Sample.tree 36 =
        .ok (some ⟨34, 37, "Bar"⟩) ∧
      ∃ token,
        tokenAt (Utf8.encode Sample.text.toList) Sample.tree 36 = .ok (some token) ∧
          token.covers 36 = true ∧
          Sample.tree.Renames (Utf8.encode Sample.text.toList) token ⟨34, 37, "Bar"⟩ := by
  rcases renames_of_proposed Sample.text Sample.tree with ⟨-, reported, renamed⟩
  refine ⟨⟨_, rfl, rfl, ?_⟩, rfl, renamed 36 _ rfl⟩
  exact reported Sample.context _ rfl rfl rfl

end CasingLint
