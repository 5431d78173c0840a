import CasingLint.Proofs.SyntaxTree.Preorder
import Mathlib.Data.List.TakeWhile

/-!
# Declarations lie inside each other, and names apart

In a tree whose nodes lie inside each other, so do the declarations that are read from it:
a declaration holds its names and lies inside every declaration around it.  For a node of
a declaring type this is the span of the node.  A bare identifier of a parameter list
starts where the walk back from its name ends, which is still inside the list.

If moreover no name lies below another one, no two of the names overlap, so at most one of
them covers any given octet.
-/

namespace CasingLint

open CasingLint.Text

/-- Does the declaration hold the octets from `start` up to `stop`? -/
def Declaration.Holds (declaration : Declaration) (start stop : Nat) : Prop :=
  declaration.start ≤ start ∧ stop ≤ declaration.stop

/-- A declaration that holds its names and is held by all declarations around it. -/
structure Site.IsNested (site : Site) : Prop where
  names : ∀ token ∈ site.declaration.identifiers, site.declaration.Holds token.start token.stop
  enclosing : ∀ outer ∈ site.enclosing,
    outer.Holds site.declaration.start site.declaration.stop

namespace SyntaxTree

/-! ## Where a parameter without a node of its own starts -/

/-- The scan keeps the start that it has, or takes that of one of the trees it passes. -/
theorem exists_start_of_foldl {trees : List SyntaxTree} {start : Option Nat} {found : Nat}
    (ends : trees.foldl
      (fun start sibling =>
        if sibling.type = "," ∨ sibling.type = "(" then none
        else some (start.getD sibling.label.start)) start = some found) :
    start = some found ∨ ∃ tree ∈ trees, tree.label.start = found := by
  induction trees generalizing start with
  | nil => exact Or.inl ends
  | cons first rest ih =>
      rw [List.foldl_cons] at ends
      rcases ih ends with kept | ⟨tree, member, starts⟩
      · split at kept
        · contradiction
        · cases start with
          | none => exact Or.inr ⟨first, List.mem_cons_self, Option.some.inj kept⟩
          | some before => exact Or.inl kept
      · exact Or.inr ⟨tree, List.mem_cons_of_mem first member, starts⟩

/-- The parameter starts with its name, or with one of the siblings before the name. -/
theorem looseStart_cases (siblings : List SyntaxTree) (name : SyntaxTree) :
    looseStart siblings name = name.label.start ∨
      ∃ sibling ∈ siblings,
        looseStart siblings name = sibling.label.start ∧
          sibling.label.start < name.label.start := by
  rw [looseStart]
  generalize found : List.foldl _ (none : Option Nat) _ = start
  cases start with
  | none => exact Or.inl rfl
  | some start =>
      rcases exists_start_of_foldl found with impossible | ⟨sibling, passed, rfl⟩
      · contradiction
      · have before := List.mem_takeWhile_imp passed
        refine Or.inr ⟨sibling, (List.takeWhile_sublist _).subset passed, rfl, ?_⟩
        exact of_decide_eq_true before

theorem looseStart_le (siblings : List SyntaxTree) (name : SyntaxTree) :
    looseStart siblings name ≤ name.label.start := by
  rcases looseStart_cases siblings name with same | ⟨sibling, -, starts, before⟩
  · exact Nat.le_of_eq same
  · rw [starts]
    exact Nat.le_of_lt before

/-! ## Declarations inside each other -/

/-- The nodes of a tree lie inside it. -/
theorem inside_of_mem_nodes {tree found : SyntaxTree}
    (nested : ∀ found ∈ tree.nodes, found.IsNested) (member : found ∈ tree.nodes) :
    tree.label.start ≤ found.label.start ∧ found.label.stop ≤ tree.label.stop := by
  induction tree with
  | node label children ih =>
      rw [nodes_eq] at member
      rcases List.mem_cons.mp member with rfl | below
      · exact ⟨Nat.le_refl _, Nat.le_refl _⟩
      · rcases mem_inner.mp below with ⟨child, childMember, inChild⟩
        have outer := (holds_root nested).inside child childMember
        have within := ih child childMember
          (forall_nodes_of_mem_children nested childMember) inChild
        exact ⟨Nat.le_trans outer.1 within.1, Nat.le_trans within.2 outer.2⟩

theorem mem_nodes_of_mem_nameNodes {kind : Kind} {tree name : SyntaxTree}
    (member : name ∈ nameNodes kind tree) :
    name ∈ tree.nodes := by
  rcases nameNodes_cases kind tree with ⟨-, itself⟩ | identifiers
  · rw [itself, List.mem_singleton] at member
    subst member
    exact mem_nodes_self name
  · rw [nodes_eq]
    exact List.mem_cons_of_mem tree (identifiers name member).1

section Spans

variable {source : Utf8.Octets} {tree : SyntaxTree}

/-- What is declared in a tree lies inside the tree. -/
theorem Makes.inside_tree {address : Address} {declaration : Declaration}
    (makes : Makes source tree address declaration)
    (nested : ∀ found ∈ tree.nodes, found.IsNested) :
    tree.label.start ≤ declaration.start ∧ declaration.stop ≤ tree.label.stop := by
  induction makes with
  | typed declared made =>
      have isDeclared := isDeclaredBy_of_declare made
      exact ⟨Nat.le_of_eq isDeclared.start.symm, Nat.le_of_eq isDeclared.stop⟩
  | @loose tree child _ _ inPlace _ made =>
      have isDeclared := isDeclaredLoose_of_declareLoose made
      have inside := (holds_root nested).inside
      have childInside := inside child (List.mem_of_getElem? inPlace)
      rw [isDeclared.start, isDeclared.stop]
      refine ⟨?_, childInside.2⟩
      rcases looseStart_cases tree.children child with same | ⟨sibling, member, starts, -⟩
      · rw [same]
        exact childInside.1
      · rw [starts]
        exact (inside sibling member).1
  | @inside tree child _ _ _ inPlace _ ih =>
      have member := List.mem_of_getElem? inPlace
      have outer := (holds_root nested).inside child member
      have within := ih (forall_nodes_of_mem_children nested member)
      exact ⟨Nat.le_trans outer.1 within.1, Nat.le_trans within.2 outer.2⟩

/-- A declaration holds its names. -/
theorem Makes.holds_names {address : Address} {declaration : Declaration}
    (makes : Makes source tree address declaration)
    (nested : ∀ found ∈ tree.nodes, found.IsNested) {token : Token}
    (member : token ∈ declaration.identifiers) :
    declaration.Holds token.start token.stop := by
  induction makes with
  | typed declared made =>
      have isDeclared := isDeclaredBy_of_declare made
      rcases (isDeclared.token token).mp member with ⟨name, own, read⟩
      rcases token_spec read with ⟨-, -, start, stop⟩
      rw [Declaration.Holds, isDeclared.start, isDeclared.stop, start, stop]
      exact inside_of_mem_nodes nested (mem_nodes_of_mem_nameNodes own)
  | loose inPlace isLoose made =>
      have isDeclared := isDeclaredLoose_of_declareLoose made
      rcases token_spec ((isDeclared.token token).mp member) with ⟨-, -, start, stop⟩
      rw [Declaration.Holds, isDeclared.start, isDeclared.stop, start, stop]
      exact ⟨looseStart_le _ _, Nat.le_refl _⟩
  | inside inPlace below ih =>
      exact ih (forall_nodes_of_mem_children nested (List.mem_of_getElem? inPlace)) member

/-- A declaration holds what is declared below its place. -/
theorem Makes.holds_of_isAbove {outer inner : Address} {around declaration : Declaration}
    (makesOuter : Makes source tree outer around)
    (nested : ∀ found ∈ tree.nodes, found.IsNested) (above : IsAbove outer inner)
    (makesInner : Makes source tree inner declaration) :
    around.Holds declaration.start declaration.stop := by
  induction makesOuter generalizing inner with
  | typed declared made =>
      have isDeclared := isDeclaredBy_of_declare made
      rw [Declaration.Holds, isDeclared.start, isDeclared.stop]
      exact makesInner.inside_tree nested
  | loose inPlace isLoose made =>
      cases makesInner with
      | typed => exact absurd above (not_isAbove_nil _)
      | loose => exact absurd (isAbove_cons_cons.mp above).2 (not_isAbove_nil [])
      | inside samePlace below =>
          rcases isAbove_cons_cons.mp above with ⟨rfl, -⟩
          rw [inPlace] at samePlace
          cases samePlace
          have isDeclared := isDeclaredLoose_of_declareLoose made
          have within := below.inside_tree
            (forall_nodes_of_mem_children nested (List.mem_of_getElem? inPlace))
          rw [Declaration.Holds, isDeclared.start, isDeclared.stop]
          exact ⟨Nat.le_trans (looseStart_le _ _) within.1, within.2⟩
  | inside inPlace outerBelow ih =>
      cases makesInner with
      | typed => exact absurd above (not_isAbove_nil _)
      | loose => exact absurd (isAbove_cons_cons.mp above).2 (not_isAbove_nil _)
      | inside samePlace below =>
          rcases isAbove_cons_cons.mp above with ⟨rfl, aboveRest⟩
          rw [inPlace] at samePlace
          cases samePlace
          exact ih (forall_nodes_of_mem_children nested (List.mem_of_getElem? inPlace))
            aboveRest below

theorem IsSiteAt.isNested {address : Address} {site : Site}
    (isSite : tree.IsSiteAt source [] address site)
    (nested : ∀ found ∈ tree.nodes, found.IsNested) :
    site.IsNested := by
  constructor
  · intro token member
    exact isSite.makes.holds_names nested member
  · intro outer member
    rcases Outcome.exists_of_forall₂ isSite.forall₂_enclosing.flip member with
      ⟨place, onTheWay, makes⟩
    exact Makes.holds_of_isAbove makes nested (mem_around.mp onTheWay).2 isSite.makes

end Spans

end SyntaxTree

/-! ## Names apart from each other -/

namespace Site

/-- The names of sites as the bindings of a tree are read. -/
theorem map_names (sites : List Site) :
    (names sites).map (fun name => (name.1.declaration, name.2)) = sites.flatMap tokens := by
  rw [names, List.map_flatMap]
  refine List.flatMap_congr fun site _ => ?_
  rw [List.map_map]
  rfl

/-- Of names that do not overlap, at most one covers an octet. -/
theorem length_filter_covers_le_one {declared : List (Site × Token)}
    (separate : declared.Pairwise fun left right => left.2.IsApart right.2) (offset : Int) :
    (declared.filter fun name => name.2.covers offset).length ≤ 1 := by
  have chosen := separate.filter fun name => name.2.covers offset
  have covered : ∀ name ∈ declared.filter (fun name => name.2.covers offset),
      name.2.covers offset = true := fun name member => (List.mem_filter.mp member).2
  generalize declared.filter (fun name => name.2.covers offset) = candidates at chosen covered
  cases candidates with
  | nil => exact Nat.zero_le 1
  | cons first others =>
      cases others with
      | nil => exact Nat.le_refl 1
      | cons second others =>
          have apart := (List.pairwise_cons.mp chosen).1 second List.mem_cons_self
          have inFirst := Token.covers_iff.mp (covered first List.mem_cons_self)
          have inSecond := Token.covers_iff.mp
            (covered second (List.mem_cons_of_mem first List.mem_cons_self))
          rcases apart with before | after
          · omega
          · omega

end Site

namespace SyntaxTree

/-- The names that are read from a tree do not overlap if the names that it binds do not. -/
theorem pairwise_isApart_tokens {source : Utf8.Octets} {tree : SyntaxTree} {sites : List Site}
    (read : List.Forall₂ (Binding.Reads source) tree.bindings (sites.flatMap Site.tokens))
    (separate : tree.names.Pairwise IsApart) :
    (Site.names sites).Pairwise fun left right => left.2.IsApart right.2 := by
  have spans :
      tree.bindings.map (fun binding => (binding.name.label.start, binding.name.label.stop)) =
        (Site.names sites).map fun name => (name.2.start, name.2.stop) := by
    rw [← List.forall₂_eq_eq_eq, List.forall₂_map_left_iff, List.forall₂_map_right_iff]
    rw [← Site.map_names, List.forall₂_map_right_iff] at read
    refine read.imp fun binding name reads => ?_
    rcases token_spec reads.token with ⟨-, -, start, stop⟩
    exact Prod.ext start.symm stop.symm
  have bySpan : ((Site.names sites).map fun name => (name.2.start, name.2.stop)).Pairwise
      fun left right => left.2 ≤ right.1 ∨ right.2 ≤ left.1 := by
    rw [← spans, List.pairwise_map]
    exact List.pairwise_map.mp separate
  rw [List.pairwise_map] at bySpan
  exact bySpan

/--
In a tree whose nodes lie inside each other, with no name below another one, declarations
hold their names and lie inside the declarations around them, no two names overlap, and the
name found at an octet is the only one there.
-/
theorem allSites_isNested {source : Utf8.Octets} {tree : SyntaxTree}
    (nested : ∀ found ∈ tree.nodes, found.IsNested)
    (bare : ∀ found ∈ tree.nodes, found.IsBare isNameType)
    (readable : tree.IsReadable source) :
    ∃ sites,
      tree.allSites source = .ok sites ∧
        (∀ site ∈ sites, site.IsNested) ∧
        (Site.names sites).Pairwise (fun left right => left.2.IsApart right.2) ∧
        ∀ offset : Int,
          ((Site.names sites).filter fun name => name.2.covers offset).length ≤ 1 ∧
            tokenAt source tree offset =
              .ok (((Site.names sites).filter fun name => name.2.covers offset).head?.map
                Prod.snd) := by
  rcases exists_allSites readable with ⟨sites, all, related⟩
  have separate := pairwise_isApart_tokens related
    (pairwise_isApart_names (fun _ isName => isName) nested bare)
  refine ⟨sites, all, ?_, separate, ?_⟩
  · intro site member
    rcases Outcome.exists_of_forall₂ (forall₂_sitesIn (sites_eq_of_allSites all)).flip member with
      ⟨address, -, isSite⟩
    exact IsSiteAt.isNested isSite nested
  · intro offset
    refine ⟨Site.length_filter_covers_le_one separate offset, ?_⟩
    rw [tokenAt_eq all, Site.nameAt?, List.head?_filter]

/-- The second parameter of the sample starts at its keyword, between the method's parentheses. -/
theorem allSites_isNested_params :
    (∀ found ∈ Sample.paramsTree.nodes, found.IsNested) ∧
      (∀ found ∈ Sample.paramsTree.nodes, found.IsBare isNameType) ∧
      Sample.paramsTree.IsReadable (Utf8.encode Sample.paramsText.toList) ∧
      ((Sample.paramsTree.allSites (Utf8.encode Sample.paramsText.toList)).toOption.map fun sites =>
          sites.map fun site => (site.declaration.start, site.declaration.stop)) =
        some [(0, 48), (10, 46), (19, 24), (26, 41)] ∧
      ∃ sites,
        Sample.paramsTree.allSites (Utf8.encode Sample.paramsText.toList) = .ok sites ∧
          (∀ site ∈ sites, site.IsNested) ∧
          (Site.names sites).Pairwise (fun left right => left.2.IsApart right.2) ∧
          ∀ offset : Int,
            ((Site.names sites).filter fun name => name.2.covers offset).length ≤ 1 ∧
              tokenAt (Utf8.encode Sample.paramsText.toList) Sample.paramsTree offset =
                .ok (((Site.names sites).filter fun name => name.2.covers offset).head?.map
                  Prod.snd) :=
  ⟨by decide +kernel, by decide +kernel, by decide +kernel, by decide +kernel,
    allSites_isNested (by decide +kernel) (by decide +kernel) (by decide +kernel)⟩

end SyntaxTree

end CasingLint
