import CasingLint.Proofs.Rename
import CasingLint.Proofs.SyntaxTree.Addresses

/-!
# Reading a tree loses and repeats nothing

The sites that are read from a tree match the addresses at which declarations are made,
one by one and in preorder.  A site carries the declarations around it along; they are
those made on the way from the root to its address.  So the parent of a site is the site
of the nearest declaration around it.  It comes earlier in the list, where it is found
again by its depth alone, and going from parent to parent ends at a site without one.
-/

namespace CasingLint

open CasingLint.Text

/-! ## Parents in a list of sites -/

namespace Site

theorem find?_reverse_range {holds : Nat → Bool} {bound found : Nat} :
    (List.range bound).reverse.find? holds = some found ↔
      found < bound ∧ holds found = true ∧
        ∀ later, found < later → later < bound → holds later = false := by
  induction bound with
  | zero => simp
  | succ bound ih =>
      rw [List.range_succ, List.reverse_append, List.reverse_singleton, List.singleton_append,
        List.find?_cons]
      cases last : holds bound with
      | true =>
          simp only [Option.some.injEq]
          constructor
          · rintro rfl
            refine ⟨Nat.lt_succ_self bound, last, ?_⟩
            intro later after before
            exact absurd after (Nat.not_lt.mpr (Nat.lt_succ_iff.mp before))
          · rintro ⟨before, -, none⟩
            by_contra differs
            have less : found < bound :=
              Nat.lt_of_le_of_ne (Nat.lt_succ_iff.mp before) (Ne.symm differs)
            rw [none bound less (Nat.lt_succ_self bound)] at last
            contradiction
      | false =>
          rw [ih]
          constructor
          · rintro ⟨before, isFound, none⟩
            refine ⟨Nat.lt_succ_of_lt before, isFound, ?_⟩
            intro later after beforeLater
            rcases Nat.lt_succ_iff_lt_or_eq.mp beforeLater with less | rfl
            · exact none later after less
            · exact last
          · rintro ⟨before, isFound, none⟩
            refine ⟨?_, isFound, fun later after less => none later after (Nat.lt_succ_of_lt less)⟩
            refine Nat.lt_of_le_of_ne (Nat.lt_succ_iff.mp before) ?_
            rintro rfl
            rw [last] at isFound
            contradiction

/-- The parent of a site is the last site before it that lies one level further out. -/
theorem parentIndex?_eq_some_iff {sites : List Site} {index earlier : Nat} {site : Site}
    (place : sites[index]? = some site) :
    parentIndex? sites index = some earlier ↔
      earlier < index ∧
        (∃ outer, sites[earlier]? = some outer ∧
          outer.enclosing.length + 1 = site.enclosing.length) ∧
        ∀ middle, earlier < middle → middle < index →
          ∀ other, sites[middle]? = some other →
            other.enclosing.length + 1 ≠ site.enclosing.length := by
  simp only [parentIndex?, place, Option.bind_eq_bind, Option.bind_some, find?_reverse_range]
  refine and_congr_right fun before => and_congr ?_ ?_
  · cases sites[earlier]? with
    | none => simp
    | some outer => simp
  · refine forall_congr' fun middle => forall_congr' fun after => forall_congr' fun less => ?_
    cases sites[middle]? with
    | none => simp
    | some other => simp

theorem parentIndex?_lt {sites : List Site} {index earlier : Nat}
    (found : parentIndex? sites index = some earlier) :
    earlier < index := by
  rcases Option.bind_eq_some_iff.mp found with ⟨site, place, -⟩
  exact ((parentIndex?_eq_some_iff place).mp found).1

theorem parentIndex?_eq_none {sites : List Site} {index : Nat} {site : Site}
    (place : sites[index]? = some site) (outermost : site.enclosing = []) :
    parentIndex? sites index = none := by
  refine Option.eq_none_iff_forall_ne_some.mpr ?_
  intro earlier found
  rcases (parentIndex?_eq_some_iff place).mp found with ⟨-, ⟨outer, -, level⟩, -⟩
  rw [outermost] at level
  contradiction

/--
The numbers of a site, of its parent, of the parent of that, and so on.  Each parent comes
earlier in the list, so the way up ends.
-/
def climb (sites : List Site) (index : Nat) : List Nat :=
  match found : parentIndex? sites index with
  | none => [index]
  | some parent =>
    have := parentIndex?_lt found
    index :: climb sites parent
termination_by index

theorem climb_of_none {sites : List Site} {index : Nat}
    (outermost : parentIndex? sites index = none) :
    climb sites index = [index] := by
  rw [climb]
  split
  · rfl
  · rename_i parent found
    rw [outermost] at found
    contradiction

theorem climb_of_some {sites : List Site} {index parent : Nat}
    (found : parentIndex? sites index = some parent) :
    climb sites index = index :: climb sites parent := by
  rw [climb]
  split
  · rename_i outermost
    rw [outermost] at found
    contradiction
  · rename_i other same
    rw [found] at same
    cases same
    rfl

/-- The declarations met on the way up from a site. -/
def climbed (sites : List Site) (index : Nat) : List Declaration :=
  (climb sites index).filterMap fun number => sites[number]?.map declaration

/-- A site without parent, or inside the one that is found as its parent. -/
inductive IsLinked (sites : List Site) (index : Nat) (site : Site) : Prop
  | outermost (enclosing : site.enclosing = []) (parent : parentIndex? sites index = none)
  | nested {earlier : Nat} {outer : Site} (place : sites[earlier]? = some outer)
      (enclosing : site.enclosing = outer.chain)
      (parent : parentIndex? sites index = some earlier)

/-- The way up from a site meets the declarations that the site carries along. -/
theorem climbed_eq_chain {sites : List Site}
    (linked : ∀ index site, sites[index]? = some site → IsLinked sites index site)
    {index : Nat} {site : Site} (place : sites[index]? = some site) :
    climbed sites index = site.chain := by
  induction index using Nat.strongRecOn generalizing site with
  | ind index ih =>
      rcases linked index site place with ⟨enclosing, parent⟩ | ⟨outerPlace, enclosing, parent⟩
      · rw [climbed, climb_of_none parent, chain, enclosing]
        simp [place]
      · have rest := ih _ (parentIndex?_lt parent) outerPlace
        rw [climbed] at rest
        rw [climbed, climb_of_some parent, chain, enclosing, ← rest]
        simp [place]

end Site

/-! ## What each address declares -/

namespace SyntaxTree

/-- A node of a declaring type declares its names over its own span. -/
structure IsDeclaredBy (source : Utf8.Octets) (kind : Kind) (tree : SyntaxTree)
    (declaration : Declaration) : Prop where
  ofKind : declaration.kind = kind
  start : declaration.start = tree.label.start
  stop : declaration.stop = tree.label.stop
  token : ∀ token, token ∈ declaration.identifiers ↔
    ∃ name ∈ nameNodes kind tree, name.token source = .ok token

/-- A bare identifier declares itself as a parameter that starts where the walk back ends. -/
structure IsDeclaredLoose (source : Utf8.Octets) (siblings : List SyntaxTree) (name : SyntaxTree)
    (declaration : Declaration) : Prop where
  ofKind : declaration.kind = .parameter
  start : declaration.start = looseStart siblings name
  stop : declaration.stop = name.label.stop
  token : ∀ token, token ∈ declaration.identifiers ↔ name.token source = .ok token

theorem isDeclaredBy_of_declare {source : Utf8.Octets} {kind : Kind} {tree : SyntaxTree}
    {declaration : Declaration} (made : declare source kind tree = .ok declaration) :
    IsDeclaredBy source kind tree declaration := by
  rcases Outcome.bind_eq_ok_iff.mp made with ⟨identifiers, read, same⟩
  cases same
  exact ⟨rfl, rfl, rfl, fun token => Outcome.mem_of_mapM_eq_ok read⟩

theorem isDeclaredLoose_of_declareLoose {source : Utf8.Octets} {siblings : List SyntaxTree}
    {name : SyntaxTree} {declaration : Declaration}
    (made : declareLoose source siblings name = .ok declaration) :
    IsDeclaredLoose source siblings name declaration := by
  rcases Outcome.bind_eq_ok_iff.mp made with ⟨identifier, read, same⟩
  cases same
  refine ⟨rfl, rfl, rfl, ?_⟩
  intro token
  rw [List.mem_singleton, read, Except.ok.injEq]
  exact eq_comm

/-- The declaration that is made at an address. -/
inductive Makes (source : Utf8.Octets) : SyntaxTree → Address → Declaration → Prop
  | typed {tree : SyntaxTree} {kind : Kind} {declaration : Declaration} :
      declaredKind? tree.type = some kind → declare source kind tree = .ok declaration →
        Makes source tree [] declaration
  | loose {tree child : SyntaxTree} {number : Nat} {declaration : Declaration} :
      tree.children[number]? = some child → isLoose tree.type child = true →
        declareLoose source tree.children child = .ok declaration →
          Makes source tree [number] declaration
  | inside {tree child : SyntaxTree} {number : Nat} {rest : Address} {declaration : Declaration} :
      tree.children[number]? = some child → Makes source child rest declaration →
        Makes source tree (number :: rest) declaration

theorem not_makes_nil_of_isLoose {source : Utf8.Octets} {type : String} {child : SyntaxTree}
    (loose : isLoose type child = true) (declaration : Declaration) :
    ¬ Makes source child [] declaration := by
  rintro (⟨declared, -⟩)
  rw [(isLoose_iff.mp loose).2] at declared
  contradiction

/-- The kind of what is made at an address: a parameter, or what the type of the node says. -/
def IsKindAt (tree : SyntaxTree) (address : Address) (kind : Kind) : Prop :=
  (tree.IsLooseAt address ∧ kind = .parameter) ∨
    ∃ found, tree.at? address = some found ∧ declaredKind? found.type = some kind

theorem Makes.isKindAt {source : Utf8.Octets} {tree : SyntaxTree} {address : Address}
    {declaration : Declaration} (makes : Makes source tree address declaration) :
    tree.IsKindAt address declaration.kind := by
  induction makes with
  | typed declared made =>
      refine Or.inr ⟨_, rfl, ?_⟩
      rw [declared, (isDeclaredBy_of_declare made).ofKind]
  | loose inPlace isLoose made =>
      exact Or.inl ⟨.here inPlace isLoose, (isDeclaredLoose_of_declareLoose made).ofKind⟩
  | inside inPlace below ih =>
      rcases ih with ⟨looseBelow, parameter⟩ | ⟨found, reached, declared⟩
      · exact Or.inl ⟨.inside inPlace looseBelow, parameter⟩
      · exact Or.inr ⟨found, by rw [at?, inPlace, Option.bind_some, reached], declared⟩

/-- At most one declaration is made at an address. -/
theorem Makes.unique {source : Utf8.Octets} {tree : SyntaxTree} {address : Address}
    {left right : Declaration} (makesLeft : Makes source tree address left)
    (makesRight : Makes source tree address right) :
    left = right := by
  induction makesLeft with
  | typed declared made =>
      rcases makesRight with ⟨declaredRight, madeRight⟩
      rw [declared] at declaredRight
      cases declaredRight
      exact Except.ok.inj (made.symm.trans madeRight)
  | loose inPlace isLoose made =>
      rcases makesRight with - | ⟨samePlace, -, madeRight⟩ | ⟨samePlace, below⟩
      · rw [inPlace] at samePlace
        cases samePlace
        exact Except.ok.inj (made.symm.trans madeRight)
      · rw [inPlace] at samePlace
        cases samePlace
        exact absurd below (not_makes_nil_of_isLoose isLoose right)
  | inside inPlace below ih =>
      rcases makesRight with - | ⟨samePlace, isLoose, -⟩ | ⟨samePlace, belowRight⟩
      · rw [inPlace] at samePlace
        cases samePlace
        exact absurd below (not_makes_nil_of_isLoose isLoose _)
      · rw [inPlace] at samePlace
        cases samePlace
        exact ih belowRight

/--
The site at an address, read inside some outer declarations: it carries along those made on
the way to the address, then the outer ones.
-/
structure IsSiteAt (source : Utf8.Octets) (tree : SyntaxTree) (outer : List Declaration)
    (address : Address) (site : Site) : Prop where
  makes : tree.Makes source address site.declaration
  enclosing : ∃ inner, site.enclosing = inner ++ outer ∧
    List.Forall₂ (tree.Makes source) (tree.around address) inner

section Reading

variable {source : Utf8.Octets}

/-- What is read in a child is read in its parent, inside what the parent itself declares. -/
theorem IsSiteAt.inside {tree child : SyntaxTree} {number : Nat} {own outer : List Declaration}
    (inPlace : tree.children[number]? = some child)
    (ownMakes : List.Forall₂ (tree.Makes source) tree.ownPlaces own)
    {address : Address} {site : Site} (read : child.IsSiteAt source (own ++ outer) address site) :
    tree.IsSiteAt source outer (number :: address) site := by
  rcases read.enclosing with ⟨inner, enclosing, made⟩
  refine ⟨.inside inPlace read.makes, inner ++ own, ?_, ?_⟩
  · rw [enclosing, List.append_assoc]
  · rw [around_cons inPlace]
    refine List.rel_append ?_ ownMakes
    exact List.forall₂_map_left_iff.mpr (made.imp fun _ _ makes => .inside inPlace makes)

theorem IsSiteAt.loose {tree child : SyntaxTree} {number : Nat} {own outer : List Declaration}
    (inPlace : tree.children[number]? = some child) (isLoose : isLoose tree.type child = true)
    (ownMakes : List.Forall₂ (tree.Makes source) tree.ownPlaces own)
    {declaration : Declaration}
    (made : declareLoose source tree.children child = .ok declaration) :
    tree.IsSiteAt source outer [number] ⟨declaration, own ++ outer⟩ := by
  refine ⟨.loose inPlace isLoose made, own, rfl, ?_⟩
  rw [around_cons inPlace]
  exact ownMakes

theorem forall₂_sitesBelow {tree : SyntaxTree} {own outer : List Declaration}
    (ownMakes : List.Forall₂ (tree.Makes source) tree.ownPlaces own)
    {trees : List SyntaxTree}
    (each : ∀ child ∈ trees, ∀ outer sites, sitesIn source outer child = sites.map .ok →
      List.Forall₂ (child.IsSiteAt source outer) child.places sites)
    {number : Nat} (rest : ∀ index, tree.children[number + index]? = trees[index]?)
    {sites : List Site}
    (read : sitesIn.sitesBelow source tree.type tree.children (own ++ outer) trees =
      sites.map .ok) :
    List.Forall₂ (tree.IsSiteAt source outer) (places.placesFrom tree.type number trees) sites := by
  induction trees generalizing number sites with
  | nil =>
      rw [sitesIn.sitesBelow] at read
      rw [List.map_eq_nil_iff.mp read.symm]
      exact List.Forall₂.nil
  | cons child others ih =>
      rcases List.forall_mem_cons.mp each with ⟨childReads, othersRead⟩
      rw [sitesIn.sitesBelow] at read
      rcases List.append_eq_map_iff.mp read with ⟨here, later, rfl, readHere, readLater⟩
      have inPlace : tree.children[number]? = some child := rest 0
      have restOthers : ∀ index, tree.children[number + 1 + index]? = others[index]? := by
        intro index
        rw [Nat.add_right_comm]
        exact rest (index + 1)
      rw [places.placesFrom]
      refine List.rel_append ?_ (ih othersRead restOthers readLater.symm)
      split
      · rename_i loose
        rw [if_pos (isLoose_iff.mp loose)] at readHere
        rcases List.map_eq_singleton_iff.mp readHere with ⟨site, rfl, isSite⟩
        rcases Outcome.map_eq_ok_iff.mp isSite.symm with ⟨declaration, made, rfl⟩
        exact .cons (.loose inPlace loose ownMakes made) .nil
      · rename_i notLoose
        rw [if_neg (fun isOne => notLoose (isLoose_iff.mpr isOne))] at readHere
        refine List.forall₂_map_left_iff.mpr ?_
        exact (childReads _ here readHere.symm).imp fun _ _ isSite =>
          isSite.inside inPlace ownMakes

/-- The sites of a tree that is read without fault match the places of its declarations. -/
theorem forall₂_sitesIn {tree : SyntaxTree} {outer : List Declaration} {sites : List Site}
    (read : sitesIn source outer tree = sites.map .ok) :
    List.Forall₂ (tree.IsSiteAt source outer) tree.places sites := by
  induction tree generalizing outer sites with
  | node label children ih =>
      have childrenRead : ∀ child ∈ children, ∀ outer sites,
          sitesIn source outer child = sites.map .ok →
            List.Forall₂ (child.IsSiteAt source outer) child.places sites :=
        fun child member outer sites => ih child member
      have here : ∀ index, (node label children).children[0 + index]? = children[index]? := by
        intro index
        rw [Nat.zero_add, children_node]
      rw [sitesIn] at read
      rw [places]
      cases declared : declaredKind? label.type with
      | none =>
          have noPlaces : (node label children).ownPlaces = [] := by
            simp [ownPlaces, type, declared]
          rw [declared] at read
          rw [noPlaces]
          have ownMakes : List.Forall₂ (Makes source (node label children))
              (node label children).ownPlaces [] := by
            rw [noPlaces]
            exact List.Forall₂.nil
          exact forall₂_sitesBelow ownMakes childrenRead here read
      | some kind =>
          have rootPlace : (node label children).ownPlaces = [[]] := by
            simp [ownPlaces, type, declared]
          rw [declared] at read
          cases made : declare source kind (node label children) with
          | error fault =>
              simp only [made] at read
              rcases List.map_eq_singleton_iff.mp read.symm with ⟨site, -, impossible⟩
              contradiction
          | ok declaration =>
              simp only [made] at read
              rcases List.map_eq_cons_iff.mp read.symm with ⟨site, others, rfl, isSite, readBelow⟩
              cases isSite
              have makes : Makes source (node label children) [] declaration :=
                .typed declared made
              have ownMakes : List.Forall₂ (Makes source (node label children))
                  (node label children).ownPlaces [declaration] := by
                rw [rootPlace]
                exact .cons makes .nil
              have below := forall₂_sitesBelow ownMakes childrenRead here readBelow.symm
              rw [rootPlace]
              exact .cons ⟨makes, [], rfl, .nil⟩ below

theorem IsSiteAt.forall₂_enclosing {tree : SyntaxTree} {address : Address} {site : Site}
    (isSite : tree.IsSiteAt source [] address site) :
    List.Forall₂ (tree.Makes source) (tree.around address) site.enclosing := by
  rcases isSite.enclosing with ⟨inner, enclosing, made⟩
  rw [enclosing, List.append_nil]
  exact made

/-- What is declared around a site is declared around its parent, after the parent itself. -/
theorem IsSiteAt.enclosing_eq_chain {tree : SyntaxTree} {outer address : Address}
    {parent site : Site} (chain : tree.around address = outer :: tree.around outer)
    (isParent : tree.IsSiteAt source [] outer parent)
    (isSite : tree.IsSiteAt source [] address site) :
    site.enclosing = parent.chain := by
  have made := isSite.forall₂_enclosing
  rw [chain] at made
  have madeParent : List.Forall₂ (tree.Makes source) (outer :: tree.around outer) parent.chain :=
    .cons isParent.makes isParent.forall₂_enclosing
  have unique : Relator.RightUnique (tree.Makes source) := fun _ _ _ => Makes.unique
  exact unique.forall₂ made madeParent

/-- Between a parent and its child in the list, every site lies deeper than the parent. -/
theorem length_enclosing_lt_of_isAbove {tree : SyntaxTree} {outer middle address : Address}
    {parent other : Site} (member : outer ∈ tree.around address) (above : IsAbove outer middle)
    (isParent : tree.IsSiteAt source [] outer parent)
    (isOther : tree.IsSiteAt source [] middle other) :
    parent.enclosing.length < other.enclosing.length := by
  have onTheWay : outer ∈ tree.around middle := mem_around.mpr ⟨(mem_around.mp member).1, above⟩
  rcases exists_around_eq_append onTheWay with ⟨nearer, chain⟩
  have otherLength := isOther.forall₂_enclosing.length_eq
  rw [← isParent.forall₂_enclosing.length_eq, ← otherLength, chain, List.length_append,
    List.length_cons]
  exact Nat.lt_of_lt_of_le (Nat.lt_succ_self _) (Nat.le_add_left _ _)

section Parents

variable {tree : SyntaxTree} {sites : List Site}

/--
A site without declarations around it has no parent.  Any other site has for its parent the
site of the nearest declaration around it, which comes earlier in the list.
-/
theorem exists_parent (read : List.Forall₂ (tree.IsSiteAt source []) tree.places sites)
    {index : Nat} {address : Address} {site : Site}
    (visited : tree.places[index]? = some address) (place : sites[index]? = some site) :
    ((∀ outer, ¬ tree.IsAround outer address) ∧ site.enclosing = [] ∧
        Site.parentIndex? sites index = none) ∨
      ∃ outer earlier parent,
        tree.IsNearest outer address ∧ tree.places[earlier]? = some outer ∧ earlier < index ∧
          sites[earlier]? = some parent ∧ site.enclosing = parent.chain ∧
          Site.parentIndex? sites index = some earlier := by
  have forward := pairwise_places tree
  rcases Outcome.exists_getElem?_of_forall₂ read visited with ⟨same, samePlace, isSite⟩
  obtain rfl : site = same := Option.some.inj (place.symm.trans samePlace)
  rcases around_cases (mem_places.mp (List.mem_of_getElem? visited)) with
    ⟨noChain, outermost⟩ | ⟨outer, nearest, chain⟩
  · have made := isSite.forall₂_enclosing
    rw [noChain, List.forall₂_nil_left_iff] at made
    exact Or.inl ⟨outermost, made, Site.parentIndex?_eq_none place made⟩
  · have member : outer ∈ tree.around address := by
      rw [chain]
      exact List.mem_cons_self
    rcases List.mem_iff_getElem?.mp (mem_places.mpr nearest.around.declares) with
      ⟨earlier, outerVisited⟩
    rcases Outcome.exists_getElem?_of_forall₂ read outerVisited with
      ⟨parent, parentPlace, isParent⟩
    have before : earlier < index :=
      index_lt_of_lt forward outerVisited visited nearest.around.above.lt
    have enclosing := IsSiteAt.enclosing_eq_chain chain isParent isSite
    refine Or.inr
      ⟨outer, earlier, parent, nearest, outerVisited, before, parentPlace, enclosing, ?_⟩
    rw [Site.parentIndex?_eq_some_iff place]
    refine ⟨before, ⟨parent, parentPlace, ?_⟩, ?_⟩
    · rw [enclosing]
      rfl
    · intro middle after beforeSite other otherPlace level
      rcases Outcome.exists_getElem?_of_forall₂ read.flip otherPlace with
        ⟨between, betweenVisited, isOther⟩
      -- The places between a declaration and one inside it are all inside it.
      have above : IsAbove outer between :=
        isAbove_of_between nearest.around.above.1
          (lt_of_index_lt forward after outerVisited betweenVisited)
          (lt_of_index_lt forward beforeSite betweenVisited visited)
      have deeper := length_enclosing_lt_of_isAbove member above isParent isOther
      rw [enclosing, Site.chain, List.length_cons, Nat.succ_inj] at level
      exact absurd level (Nat.ne_of_gt deeper)

theorem isLinked (read : List.Forall₂ (tree.IsSiteAt source []) tree.places sites)
    (index : Nat) (site : Site) (place : sites[index]? = some site) :
    Site.IsLinked sites index site := by
  rcases Outcome.exists_getElem?_of_forall₂ read.flip place with ⟨address, visited, -⟩
  rcases exists_parent read visited place with
    ⟨-, enclosing, none⟩ | ⟨_, _, parent, -, -, -, parentPlace, enclosing, found⟩
  · exact .outermost enclosing none
  · exact .nested parentPlace enclosing found

end Parents

end Reading

/--
The sites are what the walk through a tree finds.  They match the addresses at which
declarations are made, one by one, in the order of the addresses.  The parent of a site is
the site of the nearest declaration around it, earlier in the list, and there is none if
nothing is declared around it.  A name that is found at an octet comes with its own site,
and the way up from there meets the declarations that decide on its convention.
-/
structure IsPreorderOf (source : Utf8.Octets) (tree : SyntaxTree) (sites : List Site) : Prop where
  forward : tree.places.Pairwise (· < ·)
  complete : ∀ address, address ∈ tree.places ↔ tree.Declares address
  makes : List.Forall₂ (fun address site => tree.Makes source address site.declaration)
    tree.places sites
  kind : List.Forall₂ (fun address site => tree.IsKindAt address site.declaration.kind)
    tree.places sites
  parent : ∀ (index : Nat) (address : Address) (site : Site),
    tree.places[index]? = some address → sites[index]? = some site →
      ((∀ outer, ¬ tree.IsAround outer address) ∧ site.enclosing = [] ∧
          Site.parentIndex? sites index = none) ∨
        ∃ outer earlier parent,
          tree.IsNearest outer address ∧ tree.places[earlier]? = some outer ∧ earlier < index ∧
            sites[earlier]? = some parent ∧ site.enclosing = parent.chain ∧
            Site.parentIndex? sites index = some earlier
  token : ∀ (offset : Int) (site : Site) (token : Token),
    findName offset (tree.sites source) = .ok (some (site, token)) →
      token ∈ site.declaration.identifiers ∧ ∃ index : Nat, sites[index]? = some site
  climbs : ∀ (index : Nat) (site : Site), sites[index]? = some site →
    Site.climbed sites index = site.chain ∧
      site.governing? = (Site.climbed sites index).findSome? Declaration.convention?

/-- A tree all of whose names have a value is read in preorder, without loss or repetition. -/
theorem allSites_isPreorderOf {source : Utf8.Octets} {tree : SyntaxTree}
    (readable : tree.IsReadable source) :
    ∃ sites, tree.allSites source = .ok sites ∧ tree.IsPreorderOf source sites := by
  rcases exists_allSites_iff.mpr readable with ⟨sites, all⟩
  have results := sites_eq_of_allSites all
  have read := forall₂_sitesIn results
  refine ⟨sites, all, pairwise_places tree, fun _ => mem_places, ?_, ?_, ?_, ?_, ?_⟩
  · exact read.imp fun _ _ isSite => isSite.makes
  · exact read.imp fun _ _ isSite => isSite.makes.isKindAt
  · intro index address site visited place
    exact exists_parent read visited place
  · intro offset site token found
    rw [results, Site.findName_map_ok, Except.ok.injEq] at found
    rcases Site.mem_names.mp (List.mem_of_find?_eq_some found) with ⟨member, declared⟩
    exact ⟨declared, List.mem_iff_getElem?.mp member⟩
  · intro index site place
    have climbed := Site.climbed_eq_chain (isLinked read) place
    refine ⟨climbed, ?_⟩
    rw [climbed]
    rfl

end SyntaxTree

namespace Sample

/-- A method with two parameters, the second of which has no node of its own. -/
def paramsText : String :=
  "class C \x7b void Sum(int A, params int[] Bs) \x7b \x7d \x7d"

/-- The syntax tree of the method with two parameters. -/
def paramsTree : SyntaxTree :=
  plain "compilation_unit" 0 48 [
    plain "class_declaration" 0 48 [
      plain "class" 0 5 [],
      name 6 7,
      plain "declaration_list" 8 48 [
        plain "\x7b" 8 9 [],
        plain "method_declaration" 10 46 [
          plain "predefined_type" 10 14 [],
          name 15 18,
          plain "parameter_list" 18 42 [
            plain "(" 18 19 [],
            plain "parameter" 19 24 [plain "predefined_type" 19 22 [], name 23 24],
            plain "," 24 25 [],
            plain "params" 26 32 [],
            plain "array_type" 33 38 [],
            name 39 41,
            plain ")" 41 42 []],
          plain "block" 43 46 []],
        plain "\x7d" 47 48 []]]]

end Sample

/-- Both parameters of the sample are declared in the method, and the method in the class. -/
theorem SyntaxTree.allSites_isPreorderOf_params :
    Sample.paramsTree.IsReadable (Utf8.encode Sample.paramsText.toList) ∧
      Sample.paramsTree.places =
        [[0], [0, 2, 1], [0, 2, 1, 2, 1], [0, 2, 1, 2, 5]] ∧
      ∃ sites,
        Sample.paramsTree.allSites (Utf8.encode Sample.paramsText.toList) = .ok sites ∧
          Sample.paramsTree.IsPreorderOf (Utf8.encode Sample.paramsText.toList) sites :=
  ⟨by decide +kernel, by decide +kernel, allSites_isPreorderOf (by decide +kernel)⟩

end CasingLint
