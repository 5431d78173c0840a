import CasingLint.Proofs.Fix.Exactness
import CasingLint.Rename

/-!
# Renaming at a place agrees with the naming rule

The rule goes through the declarations from the top; renaming starts from a place, finds
the first declared name there and looks outward for a convention.  Where the declaration
of the name has a convention of its own, the two make the same edit or none.  Where it has
none, the rule is silent, and renaming takes the convention of the nearest declaration
around it that has one.  If no two names overlap, every finding is met again at each octet
of its name.
-/

namespace CasingLint

open CasingLint.Text

/-! ## The name at a place -/

/-- Does the token cover an octet? -/
def Token.covers (offset : Int) (token : Token) : Bool :=
  decide ((token.start : Int) ≤ offset) && decide (offset < (token.stop : Int))

theorem Token.covers_iff {offset : Int} {token : Token} :
    token.covers offset = true ↔ (token.start : Int) ≤ offset ∧ offset < (token.stop : Int) := by
  simp [covers]

/-- Does one of the two tokens end before the other begins? -/
def Token.IsApart (left right : Token) : Prop :=
  left.stop ≤ right.start ∨ right.stop ≤ left.start

namespace Site

/-- The names that sites declare, in order, each with its site. -/
def names (sites : List Site) : List (Site × Token) :=
  sites.flatMap fun site => site.declaration.identifiers.map (site, ·)

/-- The first declared name that covers an octet. -/
def nameAt? (offset : Int) (sites : List Site) : Option (Site × Token) :=
  (names sites).find? fun name => name.2.covers offset

theorem mem_names {sites : List Site} {site : Site} {token : Token} :
    (site, token) ∈ names sites ↔ site ∈ sites ∧ token ∈ site.declaration.identifiers := by
  simp only [names, List.mem_flatMap, List.mem_map, Prod.mk.injEq]
  constructor
  · rintro ⟨other, member, token, declared, rfl, rfl⟩
    exact ⟨member, declared⟩
  · rintro ⟨member, declared⟩
    exact ⟨site, member, token, declared, rfl, rfl⟩

theorem nameAt?_cons (offset : Int) (site : Site) (rest : List Site) :
    nameAt? offset (site :: rest) =
      match site.tokenAt? offset with
      | some token => some (site, token)
      | none => nameAt? offset rest := by
  have own :
      (site.declaration.identifiers.map (site, ·)).find? (fun name => name.2.covers offset) =
        (site.tokenAt? offset).map (site, ·) := by
    rw [List.find?_map]
    rfl
  rw [nameAt?, names, List.flatMap_cons, List.find?_append, own]
  cases site.tokenAt? offset with
  | none => rfl
  | some token => rfl

theorem findName_map_ok (offset : Int) (sites : List Site) :
    findName offset (sites.map .ok) = .ok (nameAt? offset sites) := by
  induction sites with
  | nil => rfl
  | cons site rest ih =>
      rw [List.map_cons, findName, nameAt?_cons, ih]
      cases site.tokenAt? offset with
      | none => rfl
      | some token => rfl

/-- Of names that do not overlap, one that covers an octet is the first to do so. -/
theorem nameAt?_of_isApart {offset : Int} {sites : List Site}
    (separate : (names sites).Pairwise fun left right => left.2.IsApart right.2)
    {name : Site × Token} (member : name ∈ names sites) (covered : name.2.covers offset = true) :
    nameAt? offset sites = some name := by
  rw [nameAt?]
  generalize names sites = declared at separate member
  induction declared with
  | nil => contradiction
  | cons first rest ih =>
      rcases List.pairwise_cons.mp separate with ⟨firstApart, restApart⟩
      rcases List.mem_cons.mp member with rfl | later
      · exact List.find?_cons_of_pos covered
      · have notCovered : first.2.covers offset = false := by
          rw [Bool.eq_false_iff]
          intro firstCovered
          rw [Token.covers_iff] at covered firstCovered
          rcases firstApart name later with before | after
          · omega
          · omega
        rw [List.find?_cons, notCovered]
        exact ih restApart later

end Site

section Reading

variable {source : Utf8.Octets} {tree : SyntaxTree} {sites : List Site}

theorem tokenAt_eq (read : tree.allSites source = .ok sites) (offset : Int) :
    tokenAt source tree offset = .ok ((Site.nameAt? offset sites).map Prod.snd) := by
  rw [tokenAt, SyntaxTree.sites_eq_of_allSites read, Site.findName_map_ok]
  rfl

theorem renameEdit_eq (read : tree.allSites source = .ok sites) (offset : Int) :
    renameEdit source tree offset =
      .ok ((Site.nameAt? offset sites).bind fun name => name.1.renameEdit? name.2) := by
  rw [renameEdit, SyntaxTree.sites_eq_of_allSites read, Site.findName_map_ok]
  rfl

/-- The tokens of a tree have the value that their spelling denotes. -/
theorem value_of_mem_names (read : tree.allSites source = .ok sites)
    {name : Site × Token} (member : name ∈ Site.names sites) :
    Escape.value name.2.text = .ok name.2.value := by
  rcases SyntaxTree.exists_allSites (SyntaxTree.exists_allSites_iff.mp ⟨sites, read⟩) with
    ⟨others, readOthers, related⟩
  obtain rfl : sites = others := Except.ok.inj (read.symm.trans readOthers)
  rcases Site.mem_names.mp member with ⟨siteMember, declared⟩
  have token : (name.1.declaration, name.2) ∈ sites.flatMap Site.tokens :=
    List.mem_flatMap.mpr ⟨name.1, siteMember, List.mem_map_of_mem declared⟩
  rcases Outcome.exists_of_forall₂ related.flip token with ⟨binding, -, reads⟩
  exact (SyntaxTree.token_spec reads.token).2.1

end Reading

/-! ## Under a convention of its own -/

/-- A violation of a declaration that is about one of its tokens. -/
structure Violation.IsAbout (violation : Violation) (token : Token) : Prop where
  start : violation.start = token.start
  stop : violation.stop = token.stop
  spelling : violation.spelling = token.text

theorem Site.renameEdit?_of_governed {site : Site} {convention : Convention}
    (governed : site.declaration.convention? = some convention) (token : Token) :
    site.renameEdit? token = (site.declaration.violation? token).map Violation.edit := by
  have nearest : site.governing? = some convention := by
    rw [governing?, chain, List.findSome?_cons, governed]
  rw [renameEdit?, nearest, Declaration.violation?, governed, Option.bind_some,
    Violation.ofToken?]
  dsimp only
  split
  · rfl
  · rfl

theorem Declaration.isAbout_of_violation? {declaration : Declaration} {token : Token}
    {violation : Violation} (violated : declaration.violation? token = some violation) :
    violation.IsAbout token := by
  rcases Option.bind_eq_some_iff.mp violated with ⟨convention, -, found⟩
  rcases Violation.ofToken?_eq_some_iff.mp found with ⟨-, rfl⟩
  exact ⟨rfl, rfl, rfl⟩

/-- Tokens of one spelling and value have the same violation, each in its place. -/
theorem Declaration.violation?_of_isAbout {declaration : Declaration} {token other : Token}
    {violation : Violation} (violated : declaration.violation? other = some violation)
    (sameText : token.text = other.text) (sameValue : token.value = other.value)
    (isAbout : violation.IsAbout token) :
    declaration.violation? token = some violation := by
  rcases Option.bind_eq_some_iff.mp violated with ⟨convention, governed, found⟩
  rcases Violation.ofToken?_eq_some_iff.mp found with ⟨changes, rfl⟩
  have sameForm := Token.conform_text_congr convention sameText sameValue
  rw [violation?, governed, Option.bind_some, Violation.ofToken?_eq_some_iff, sameForm,
    sameText, ← isAbout.start, ← isAbout.stop]
  exact ⟨changes, rfl⟩

/-- The violation of a token is the violation of its declaration that is about it. -/
theorem Site.violation?_eq_some_iff {source : Utf8.Octets} {tree : SyntaxTree}
    {sites : List Site} (read : tree.allSites source = .ok sites)
    {site : Site} {token : Token} (member : (site, token) ∈ names sites)
    {violation : Violation} :
    site.declaration.violation? token = some violation ↔
      violation ∈ site.declaration.violations ∧ violation.IsAbout token := by
  rw [Declaration.violations_eq_filterMap, List.mem_filterMap]
  constructor
  · intro violated
    exact ⟨⟨token, (mem_names.mp member).2, violated⟩, Declaration.isAbout_of_violation? violated⟩
  · rintro ⟨⟨other, declared, violated⟩, isAbout⟩
    have sameText : token.text = other.text :=
      isAbout.spelling.symm.trans (Declaration.isAbout_of_violation? violated).spelling
    have denoted := value_of_mem_names read member
    have otherDenoted :=
      value_of_mem_names read (mem_names.mpr ⟨(mem_names.mp member).1, declared⟩)
    dsimp only at denoted otherDenoted
    rw [sameText, otherDenoted] at denoted
    exact Declaration.violation?_of_isAbout violated sameText (Except.ok.inj denoted).symm isAbout

/-! ## Under a convention from around it -/

/-- The edit that brings a token into the form of a convention, if it is not in it. -/
def Token.conformEdit? (convention : Convention) (token : Token) : Option Edit :=
  if (token.conform convention).text = token.text then none
  else some ⟨token.start, token.stop, (token.conform convention).text⟩

/-- Of declarations from the nearest outward, the first that is governed has this convention. -/
def Declaration.IsNearest (convention : Convention) (declarations : List Declaration) : Prop :=
  ∃ nearer governing further,
    declarations = nearer ++ governing :: further ∧
      governing.convention? = some convention ∧
      ∀ declaration ∈ nearer, declaration.convention? = none

theorem Site.renameEdit?_of_ungoverned {site : Site}
    (ungoverned : site.declaration.convention? = none) (token : Token) :
    site.renameEdit? token =
      (site.enclosing.findSome? Declaration.convention?).bind token.conformEdit? := by
  rw [renameEdit?, governing?, chain, List.findSome?_cons, ungoverned]
  cases site.enclosing.findSome? Declaration.convention? with
  | none => rfl
  | some convention => rfl

/-- Renaming takes the nearest convention around the name, and does nothing if there is none. -/
theorem Site.renameEdit?_cases {site : Site}
    (ungoverned : site.declaration.convention? = none) (token : Token) :
    ((∀ declaration ∈ site.enclosing, declaration.convention? = none) ∧
        site.renameEdit? token = none) ∨
      ∃ convention, Declaration.IsNearest convention site.enclosing ∧
        site.renameEdit? token = token.conformEdit? convention := by
  rw [renameEdit?_of_ungoverned ungoverned]
  cases nearest : site.enclosing.findSome? Declaration.convention? with
  | none => exact Or.inl ⟨List.findSome?_eq_none_iff.mp nearest, rfl⟩
  | some convention =>
      rcases List.findSome?_eq_some_iff.mp nearest with
        ⟨nearer, governing, further, split, governed, nearerNone⟩
      exact Or.inr ⟨convention, ⟨nearer, governing, further, split, governed, nearerNone⟩, rfl⟩

/-! ## Agreement -/

/-- A finding in the place of a token, with one edit. -/
structure Finding.Mends (finding : Finding) (token : Token) (edit : Edit) : Prop where
  start : finding.start = token.start
  stop : finding.stop = token.stop
  autofix : finding.autofix = some [edit]

theorem Rule.Naming.mends_finding {violation : Violation} {token : Token} (file : String)
    (isAbout : violation.IsAbout token) :
    (finding file violation).Mends token violation.edit :=
  ⟨congrArg Nat.cast isAbout.start, congrArg Nat.cast isAbout.stop, rfl⟩

/--
Renaming at the places of a tree agrees with findings for its sites.  A name whose
declaration is governed is renamed exactly if the declaration has a violation about it,
and there is then a finding with the same edit in the same place.  A declaration that is
not governed has no violations, and the nearest convention around it decides.  If no two
declared names overlap, every finding is met again at each octet that it covers.
-/
structure RenamingAgrees (source : Utf8.Octets) (tree : SyntaxTree) (sites : List Site)
    (findings : List Finding) : Prop where
  absent : ∀ offset : Int, Site.nameAt? offset sites = none →
    tokenAt source tree offset = .ok none ∧ renameEdit source tree offset = .ok none
  present : ∀ (offset : Int) (site : Site) (token : Token),
    Site.nameAt? offset sites = some (site, token) →
      tokenAt source tree offset = .ok (some token)
  violated : ∀ (offset : Int) (site : Site) (token : Token),
    Site.nameAt? offset sites = some (site, token) → site.declaration.convention? ≠ none →
      ∀ edit,
        renameEdit source tree offset = .ok (some edit) ↔
          ∃ violation ∈ site.declaration.violations,
            violation.IsAbout token ∧ violation.edit = edit
  reported : ∀ (offset : Int) (site : Site) (token : Token),
    Site.nameAt? offset sites = some (site, token) → site.declaration.convention? ≠ none →
      ∀ edit, renameEdit source tree offset = .ok (some edit) →
        ∃ finding ∈ findings, finding.Mends token edit
  unreported : ∀ (offset : Int) (site : Site) (token : Token),
    Site.nameAt? offset sites = some (site, token) → site.declaration.convention? = none →
      site.declaration.violations = [] ∧
        (((∀ declaration ∈ site.enclosing, declaration.convention? = none) ∧
            renameEdit source tree offset = .ok none) ∨
          ∃ convention, Declaration.IsNearest convention site.enclosing ∧
            renameEdit source tree offset = .ok (token.conformEdit? convention))
  repeated : (Site.names sites).Pairwise (fun left right => left.2.IsApart right.2) →
    ∀ finding ∈ findings, ∀ offset : Int, finding.start ≤ offset → offset < finding.stop →
      ∃ edit, finding.autofix = some [edit] ∧
        renameEdit source tree offset = .ok (some edit)

section Agreement

variable {source : Utf8.Octets} {tree : SyntaxTree} {sites : List Site}

theorem renameEdit_of_nameAt? (read : tree.allSites source = .ok sites) {offset : Int}
    {site : Site} {token : Token} (found : Site.nameAt? offset sites = some (site, token)) :
    renameEdit source tree offset = .ok (site.renameEdit? token) := by
  rw [renameEdit_eq read, found]
  rfl

/-- A governed name is renamed exactly if its declaration has a violation about it. -/
theorem renameEdit_iff_of_governed (read : tree.allSites source = .ok sites) {offset : Int}
    {site : Site} {token : Token} (found : Site.nameAt? offset sites = some (site, token))
    (governed : site.declaration.convention? ≠ none) (edit : Edit) :
    renameEdit source tree offset = .ok (some edit) ↔
      ∃ violation ∈ site.declaration.violations,
        violation.IsAbout token ∧ violation.edit = edit := by
  have member : (site, token) ∈ Site.names sites := List.mem_of_find?_eq_some found
  rcases Option.ne_none_iff_exists'.mp governed with ⟨convention, own⟩
  rw [renameEdit_of_nameAt? read found, Except.ok.injEq, Site.renameEdit?_of_governed own,
    Option.map_eq_some_iff]
  simp only [Site.violation?_eq_some_iff read member, and_assoc]

theorem renameEdit_cases_of_ungoverned (read : tree.allSites source = .ok sites) {offset : Int}
    {site : Site} {token : Token} (found : Site.nameAt? offset sites = some (site, token))
    (ungoverned : site.declaration.convention? = none) :
    ((∀ declaration ∈ site.enclosing, declaration.convention? = none) ∧
        renameEdit source tree offset = .ok none) ∨
      ∃ convention, Declaration.IsNearest convention site.enclosing ∧
        renameEdit source tree offset = .ok (token.conformEdit? convention) := by
  rw [renameEdit_of_nameAt? read found]
  rcases Site.renameEdit?_cases ungoverned token with ⟨free, kept⟩ | ⟨convention, nearest, edit⟩
  · exact Or.inl ⟨free, congrArg Except.ok kept⟩
  · exact Or.inr ⟨convention, nearest, congrArg Except.ok edit⟩

/-- Names that do not overlap are renamed at each of their octets as the rule reports them. -/
theorem renameEdit_of_isApart (read : tree.allSites source = .ok sites)
    (separate : (Site.names sites).Pairwise fun left right => left.2.IsApart right.2)
    {site : Site} (member : site ∈ sites) {violation : Violation}
    (violated : violation ∈ site.declaration.violations) {offset : Int}
    (starts : (violation.start : Int) ≤ offset) (stops : offset < (violation.stop : Int)) :
    renameEdit source tree offset = .ok (some violation.edit) := by
  rw [Declaration.violations_eq_filterMap] at violated
  rcases List.mem_filterMap.mp violated with ⟨token, declared, found⟩
  have isAbout := Declaration.isAbout_of_violation? found
  have covered : token.covers offset = true := by
    rw [Token.covers_iff, ← isAbout.start, ← isAbout.stop]
    exact ⟨starts, stops⟩
  have first :=
    Site.nameAt?_of_isApart separate (Site.mem_names.mpr ⟨member, declared⟩) covered
  rcases Option.bind_eq_some_iff.mp found with ⟨convention, governed, -⟩
  rw [renameEdit_of_nameAt? read first, Site.renameEdit?_of_governed governed, found]
  rfl

end Agreement

/-- The naming rule and renaming at a place agree on every tree whose names have a value. -/
theorem Rule.Naming.renameEdit_agrees {text : String} {tree : SyntaxTree} {options : Value}
    (file : String) (readable : tree.IsReadable (Utf8.encode text.toList))
    (unskipped : skippedKinds options = .ok []) :
    ∃ sites findings,
      tree.allSites (Utf8.encode text.toList) = .ok sites ∧
        visit ⟨file, text, some tree, some language, options⟩ = .ok findings ∧
        findings = sites.flatMap (fun site => site.declaration.violations.map (finding file)) ∧
        RenamingAgrees (Utf8.encode text.toList) tree sites findings := by
  rcases SyntaxTree.exists_allSites readable with ⟨sites, read, related⟩
  have reports := visit_eq_of_unskipped file readable unskipped
  rw [← violations_eq related, List.map_flatMap] at reports
  refine ⟨sites, _, read, reports, rfl, ⟨?_, ?_, ?_, ?_, ?_, ?_⟩⟩
  · intro offset absent
    rw [tokenAt_eq read, renameEdit_eq read, absent]
    exact ⟨rfl, rfl⟩
  · intro offset site token found
    rw [tokenAt_eq read, found]
    rfl
  · intro offset site token found governed
    exact renameEdit_iff_of_governed read found governed
  · intro offset site token found governed edit renamed
    rcases (renameEdit_iff_of_governed read found governed edit).mp renamed with
      ⟨violation, violated, isAbout, rfl⟩
    have member := (Site.mem_names.mp (List.mem_of_find?_eq_some found)).1
    refine ⟨finding file violation, ?_, mends_finding file isAbout⟩
    exact List.mem_flatMap.mpr ⟨site, member, List.mem_map_of_mem violated⟩
  · intro offset site token found ungoverned
    refine ⟨?_, renameEdit_cases_of_ungoverned read found ungoverned⟩
    rw [Declaration.violations, ungoverned]
  · intro separate reported member offset starts stops
    rcases List.mem_flatMap.mp member with ⟨site, siteMember, own⟩
    rcases List.mem_map.mp own with ⟨violation, violated, rfl⟩
    exact ⟨violation.edit, rfl,
      renameEdit_of_isApart read separate siteMember violated starts stops⟩

/-- In the sample the second field is renamed at its last octet as the rule reports it. -/
theorem Rule.Naming.renameEdit_agrees_sample :
    Sample.tree.IsReadable (Utf8.encode Sample.text.toList) ∧
      skippedKinds (.map []) = .ok [] ∧
      renameEdit (Utf8.encode Sample.text.toList) Sample.tree 36 =
        .ok (some ⟨34, 37, "Bar"⟩) ∧
      ∃ sites findings,
        Sample.tree.allSites (Utf8.encode Sample.text.toList) = .ok sites ∧
          visit Sample.context = .ok findings ∧
          findings =
            sites.flatMap (fun site =>
              site.declaration.violations.map (finding "sample.cs")) ∧
          RenamingAgrees (Utf8.encode Sample.text.toList) Sample.tree sites findings :=
  ⟨by decide +kernel, rfl, by rfl, renameEdit_agrees "sample.cs" (by decide +kernel) rfl⟩

end CasingLint
