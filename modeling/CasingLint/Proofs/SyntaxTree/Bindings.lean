import CasingLint.Proofs.Escape
import CasingLint.SyntaxTree.Site

/-!
# The names that a tree binds

Reading a tree for declarations mixes three things: which nodes are names, under which
kind and modifiers they stand, and what the source says at their places.  `bindings`
gives the first two without the source.  The main theorems say that reading finds
exactly these bindings, in order, whenever every bound name has a value, and that it
breaks off whenever one has none.
-/

namespace CasingLint.SyntaxTree

open CasingLint.Text

/-! ## Induction and nodes -/

/-- What passes from the children to their node holds of every tree. -/
@[elab_as_elim, induction_eliminator]
theorem induction {property : SyntaxTree → Prop}
    (node : ∀ label children,
      (∀ child ∈ children, property child) → property (node label children))
    (tree : SyntaxTree) :
    property tree := by
  refine @SyntaxTree.rec property (fun children => ∀ child ∈ children, property child)
    node ?_ ?_ tree
  · simp
  · intro child rest holds restHolds
    exact List.forall_mem_cons.mpr ⟨holds, restHolds⟩

/-- The nodes of a tree in preorder, each with all that is below it. -/
def nodes : SyntaxTree → List SyntaxTree
  | node label children => node label children :: nodesOfAll children
where
  /-- The nodes of trees that stand side by side. -/
  nodesOfAll : List SyntaxTree → List SyntaxTree
    | [] => []
    | child :: rest => nodes child ++ nodesOfAll rest

/-- The nodes below the root. -/
def inner (tree : SyntaxTree) : List SyntaxTree :=
  tree.children.flatMap nodes

@[simp]
theorem nodesOfAll_eq (trees : List SyntaxTree) :
    nodes.nodesOfAll trees = trees.flatMap nodes := by
  induction trees with
  | nil => rfl
  | cons child rest ih => simp [nodes.nodesOfAll, ih]

theorem nodes_eq (tree : SyntaxTree) :
    tree.nodes = tree :: tree.inner := by
  cases tree with
  | node label children => simp [nodes, inner]

theorem mem_nodes_self (tree : SyntaxTree) :
    tree ∈ tree.nodes := by
  simp [nodes_eq]

theorem mem_inner {tree found : SyntaxTree} :
    found ∈ tree.inner ↔ ∃ child ∈ tree.children, found ∈ child.nodes := by
  simp [inner]

theorem mem_nodes_of_mem_children {tree child found : SyntaxTree}
    (member : child ∈ tree.children) (below : found ∈ child.nodes) :
    found ∈ tree.nodes := by
  rw [nodes_eq]
  exact List.mem_cons_of_mem tree (mem_inner.mpr ⟨child, member, below⟩)

/-! ## Bindings -/

/-- A name in a tree, with the kind and the modifier nodes of the declaration that binds it. -/
structure Binding where
  kind : Kind
  modifiers : List SyntaxTree
  name : SyntaxTree

/-- The bindings that a declaring node of the given kind makes by itself. -/
def ownBindings (kind : Kind) (tree : SyntaxTree) : List Binding :=
  (nameNodes kind tree).map (Binding.mk kind (ofType "modifier" tree.children))

/-- Is the child a parameter without a node of its own, given the type of its parent? -/
def isLoose (type : String) (child : SyntaxTree) : Bool :=
  type == "parameter_list" && child.type == "identifier"

theorem isLoose_iff {type : String} {child : SyntaxTree} :
    isLoose type child = true ↔ type = "parameter_list" ∧ child.type = "identifier" := by
  simp [isLoose]

/-- The bindings of a tree in preorder. -/
def bindings : SyntaxTree → List Binding
  | node label children =>
    (match declaredKind? label.type with
      | none => []
      | some kind => ownBindings kind (node label children)) ++
      bindingsBelow label.type children
where
  /-- The bindings of the children of a node of the given type. -/
  bindingsBelow (type : String) : List SyntaxTree → List Binding
    | [] => []
    | child :: rest =>
      (if isLoose type child then [⟨.parameter, [], child⟩] else bindings child) ++
        bindingsBelow type rest

theorem bindingsBelow_eq (type : String) (trees : List SyntaxTree) :
    bindings.bindingsBelow type trees =
      trees.flatMap fun child =>
        if isLoose type child then [⟨.parameter, [], child⟩] else bindings child := by
  induction trees with
  | nil => rfl
  | cons child rest ih => simp [bindings.bindingsBelow, ih]

/-! ## Names -/

/-- The names that a tree binds. -/
def names (tree : SyntaxTree) : List SyntaxTree :=
  tree.bindings.map Binding.name

/-- The names that the root binds by itself. -/
def ownNames (tree : SyntaxTree) : List SyntaxTree :=
  match declaredKind? tree.type with
  | none => []
  | some kind => nameNodes kind tree

/-- The names that a tree under a parent of the given type binds. -/
def namesUnder (type : String) (child : SyntaxTree) : List SyntaxTree :=
  if isLoose type child then [child] else child.names

@[simp]
theorem map_name_ownBindings (kind : Kind) (tree : SyntaxTree) :
    (ownBindings kind tree).map Binding.name = nameNodes kind tree := by
  rw [ownBindings, List.map_map]
  exact List.map_id'' (fun _ => rfl) _

theorem map_name_bindingsBelow (type : String) (trees : List SyntaxTree) :
    (bindings.bindingsBelow type trees).map Binding.name = trees.flatMap (namesUnder type) := by
  rw [bindingsBelow_eq, List.map_flatMap]
  congr 1
  funext child
  cases loose : isLoose type child with
  | true => simp [namesUnder, loose]
  | false => simp [namesUnder, loose, names]

theorem names_eq (tree : SyntaxTree) :
    tree.names = tree.ownNames ++ tree.children.flatMap (namesUnder tree.type) := by
  cases tree with
  | node label children =>
      rw [names, bindings, List.map_append, map_name_bindingsBelow]
      congr 1
      simp only [ownNames, type, label_node]
      cases declaredKind? label.type with
      | none => rfl
      | some kind => simp

/-! ## Reading bindings -/

theorem exists_mapM {input output fault : Type} {read : input → Except fault output}
    {inputs : List input} (readable : ∀ each ∈ inputs, ∃ result, read each = .ok result) :
    ∃ results,
      inputs.mapM read = .ok results ∧
        List.Forall₂ (fun each result => read each = .ok result) inputs results := by
  induction inputs with
  | nil => exact ⟨[], rfl, .nil⟩
  | cons each rest ih =>
      rcases List.forall_mem_cons.mp readable with ⟨⟨result, readEach⟩, restReadable⟩
      rcases ih restReadable with ⟨results, readRest, related⟩
      refine ⟨result :: results, ?_, .cons readEach related⟩
      rw [List.mapM_cons, readEach, readRest]
      rfl

theorem exists_token {source : Utf8.Octets} {tree : SyntaxTree}
    (inRange : Escape.isInRange (tree.text source).toList = true) :
    ∃ token, tree.token source = .ok token := by
  rcases Escape.exists_value inRange with ⟨value, denoted⟩
  rw [SyntaxTree.token, denoted]
  exact ⟨_, rfl⟩

theorem token_eq_ok_iff {source : Utf8.Octets} {tree : SyntaxTree} {token : Token} :
    tree.token source = .ok token ↔
      ∃ value,
        Escape.value (tree.text source) = .ok value ∧
          token = ⟨tree.text source, value, tree.label.start, tree.label.stop, "", ""⟩ := by
  rw [SyntaxTree.token]
  cases denoted : Escape.value (tree.text source) with
  | error fault =>
      constructor
      · intro read
        cases read
      · rintro ⟨value, impossible, -⟩
        cases impossible
  | ok value =>
      constructor
      · intro read
        cases read
        exact ⟨value, rfl, rfl⟩
      · rintro ⟨other, same, rfl⟩
        cases same
        rfl

theorem token_spec {source : Utf8.Octets} {tree : SyntaxTree} {token : Token}
    (read : tree.token source = .ok token) :
    token.text = tree.text source ∧ Escape.value token.text = .ok token.value ∧
      token.start = tree.label.start ∧ token.stop = tree.label.stop := by
  rcases token_eq_ok_iff.mp read with ⟨value, denoted, rfl⟩
  exact ⟨rfl, denoted, rfl, rfl⟩

end CasingLint.SyntaxTree

namespace CasingLint.Site

/-- The tokens that a site declares, each with its declaration. -/
def tokens (site : Site) : List (Declaration × Token) :=
  site.declaration.identifiers.map (site.declaration, ·)

end CasingLint.Site

namespace CasingLint.SyntaxTree

open CasingLint.Text

/-- A binding is read as a token of a declaration. -/
structure Binding.Reads (source : Utf8.Octets) (binding : Binding)
    (read : Declaration × Token) : Prop where
  kind : read.1.kind = binding.kind
  modifiers : read.1.modifiers = .ofKeywords (binding.modifiers.map (text source))
  token : binding.name.token source = .ok read.2

/-- Do all names of the bindings have a value? -/
def Readable (source : Utf8.Octets) (found : List Binding) : Prop :=
  ∀ binding ∈ found, Escape.isInRange (binding.name.text source).toList = true

theorem readable_append {source : Utf8.Octets} {left right : List Binding} :
    Readable source (left ++ right) ↔ Readable source left ∧ Readable source right :=
  List.forall_mem_append

theorem exists_declare {source : Utf8.Octets} {kind : Kind} {tree : SyntaxTree}
    (readable : Readable source (ownBindings kind tree)) :
    ∃ declaration,
      declare source kind tree = .ok declaration ∧
        List.Forall₂ (Binding.Reads source) (ownBindings kind tree)
          (declaration.identifiers.map (declaration, ·)) := by
  have tokens : ∀ name ∈ nameNodes kind tree, ∃ token, name.token source = .ok token := by
    intro name member
    exact exists_token (readable _ (List.mem_map_of_mem member))
  rcases exists_mapM tokens with ⟨identifiers, read, related⟩
  rw [declare, read]
  refine ⟨_, rfl, ?_⟩
  rw [ownBindings, List.forall₂_map_left_iff, List.forall₂_map_right_iff]
  exact related.imp fun name token readToken => ⟨rfl, rfl, readToken⟩

theorem exists_declareLoose {source : Utf8.Octets} {child : SyntaxTree}
    (siblings : List SyntaxTree)
    (inRange : Escape.isInRange (child.text source).toList = true) :
    ∃ declaration,
      declareLoose source siblings child = .ok declaration ∧
        List.Forall₂ (Binding.Reads source) [⟨.parameter, [], child⟩]
          (declaration.identifiers.map (declaration, ·)) := by
  rcases exists_token inRange with ⟨token, read⟩
  rw [declareLoose, read]
  refine ⟨_, rfl, .cons ⟨rfl, ?_, read⟩ .nil⟩
  ext modifier
  rfl

/-- What the sites of a tree, or of some of its children, are when all names have a value. -/
def ReadAs (source : Utf8.Octets) (found : List Binding)
    (results : List (Except Escape.Fault Site)) : Prop :=
  ∃ sites : List Site,
    results = sites.map .ok ∧
      List.Forall₂ (Binding.Reads source) found (sites.flatMap Site.tokens)

theorem ReadAs.append {source : Utf8.Octets} {left right : List Binding}
    {leftResults rightResults : List (Except Escape.Fault Site)}
    (readLeft : ReadAs source left leftResults) (readRight : ReadAs source right rightResults) :
    ReadAs source (left ++ right) (leftResults ++ rightResults) := by
  rcases readLeft with ⟨leftSites, rfl, leftRelated⟩
  rcases readRight with ⟨rightSites, rfl, rightRelated⟩
  refine ⟨leftSites ++ rightSites, by simp, ?_⟩
  rw [List.flatMap_append]
  exact List.rel_append leftRelated rightRelated

theorem ReadAs.declaration {source : Utf8.Octets} {found : List Binding}
    {declaration : Declaration} (enclosing : List Declaration)
    (related : List.Forall₂ (Binding.Reads source) found
      (declaration.identifiers.map (declaration, ·))) :
    ReadAs source found [.ok ⟨declaration, enclosing⟩] :=
  ⟨[⟨declaration, enclosing⟩], rfl, by simpa [Site.tokens] using related⟩

theorem readAs_sitesBelow {source : Utf8.Octets} {children : List SyntaxTree}
    (childrenRead : ∀ child ∈ children, ∀ enclosing,
      Readable source child.bindings →
        ReadAs source child.bindings (sitesIn source enclosing child))
    (type : String) (siblings : List SyntaxTree) (enclosing : List Declaration)
    (readable : Readable source (bindings.bindingsBelow type children)) :
    ReadAs source (bindings.bindingsBelow type children)
      (sitesIn.sitesBelow source type siblings enclosing children) := by
  induction children with
  | nil => exact ⟨[], rfl, .nil⟩
  | cons child rest ih =>
      rcases List.forall_mem_cons.mp childrenRead with ⟨childRead, restRead⟩
      rw [bindings.bindingsBelow, readable_append] at readable
      rw [bindings.bindingsBelow, sitesIn.sitesBelow]
      refine ReadAs.append ?_ (ih restRead readable.2)
      cases loose : isLoose type child with
      | true =>
          have inRange := readable.1 ⟨.parameter, [], child⟩ (by simp [loose])
          rcases exists_declareLoose siblings inRange with ⟨declaration, declared, related⟩
          rw [if_pos rfl, if_pos (isLoose_iff.mp loose), declared]
          exact ReadAs.declaration enclosing related
      | false =>
          have place : ¬ (type = "parameter_list" ∧ child.type = "identifier") := by
            rw [← isLoose_iff, loose]
            exact Bool.false_ne_true
          rw [if_neg Bool.false_ne_true, if_neg place]
          exact childRead enclosing (by simpa [loose] using readable.1)

/-- A tree all of whose names have a value is read without fault. -/
theorem readAs_sitesIn {source : Utf8.Octets} (tree : SyntaxTree) (enclosing : List Declaration)
    (readable : Readable source tree.bindings) :
    ReadAs source tree.bindings (sitesIn source enclosing tree) := by
  induction tree generalizing enclosing with
  | node label children ih =>
      rw [bindings] at readable ⊢
      rw [sitesIn]
      cases declared : declaredKind? label.type with
      | none =>
          rw [declared] at readable
          exact readAs_sitesBelow ih label.type children enclosing readable
      | some kind =>
          rw [declared] at readable
          rcases readable_append.mp readable with ⟨ownReadable, belowReadable⟩
          rcases exists_declare ownReadable with ⟨declaration, ok, related⟩
          simp only [ok]
          exact (ReadAs.declaration enclosing related).append
            (readAs_sitesBelow ih label.type children (declaration :: enclosing) belowReadable)

/-- Do all names that a tree binds have a value in the source? -/
def IsReadable (source : Utf8.Octets) (tree : SyntaxTree) : Prop :=
  ∀ name ∈ tree.names, Escape.isInRange (name.text source).toList = true

instance (source : Utf8.Octets) (tree : SyntaxTree) : Decidable (tree.IsReadable source) :=
  inferInstanceAs (Decidable (∀ name ∈ tree.names, _ = true))

theorem isReadable_iff {source : Utf8.Octets} {tree : SyntaxTree} :
    tree.IsReadable source ↔ Readable source tree.bindings :=
  List.forall_mem_map

/-- Reading a tree all of whose names have a value finds its bindings, in order. -/
theorem exists_allSites {source : Utf8.Octets} {tree : SyntaxTree}
    (readable : tree.IsReadable source) :
    ∃ sites,
      allSites source tree = .ok sites ∧
        List.Forall₂ (Binding.Reads source) tree.bindings (sites.flatMap Site.tokens) := by
  rcases readAs_sitesIn tree [] (isReadable_iff.mp readable) with ⟨sites, results, related⟩
  refine ⟨sites, ?_, related⟩
  have inOrder :
      sites.mapM (fun site => (.ok (id site) : Except Escape.Fault Site)) =
        .ok (sites.map id) :=
    List.mapM_pure
  rw [allSites, SyntaxTree.sites, results, List.mapM_map]
  rw [List.map_id] at inOrder
  exact inOrder

/-! ## What reading requires -/

theorem isInRange_of_token {source : Utf8.Octets} {tree : SyntaxTree} {token : Token}
    (read : tree.token source = .ok token) :
    Escape.isInRange (tree.text source).toList = true := by
  rcases token_eq_ok_iff.mp read with ⟨value, denoted, -⟩
  exact Escape.exists_value_iff.mp ⟨value, denoted⟩

theorem readable_of_declare {source : Utf8.Octets} {kind : Kind} {tree : SyntaxTree}
    {declaration : Declaration} (declared : declare source kind tree = .ok declaration) :
    Readable source (ownBindings kind tree) := by
  rcases Outcome.bind_eq_ok_iff.mp declared with ⟨identifiers, read, -⟩
  rw [ownBindings, Readable, List.forall_mem_map]
  intro name member
  rcases Outcome.exists_of_mapM_eq_ok read member with ⟨token, -, readToken⟩
  exact isInRange_of_token readToken

theorem readable_of_declareLoose {source : Utf8.Octets} {siblings : List SyntaxTree}
    {child : SyntaxTree} {declaration : Declaration}
    (declared : declareLoose source siblings child = .ok declaration) :
    Readable source [⟨.parameter, [], child⟩] := by
  rcases Outcome.bind_eq_ok_iff.mp declared with ⟨token, readToken, -⟩
  rw [Readable, List.forall_mem_singleton]
  exact isInRange_of_token readToken

/-- Is there a site in each place of what reading a tree gives? -/
def IsFaultless (results : List (Except Escape.Fault Site)) : Prop :=
  ∀ result ∈ results, ∃ site, result = .ok site

theorem readable_of_sitesBelow {source : Utf8.Octets} {children : List SyntaxTree}
    (childrenReadable : ∀ child ∈ children, ∀ enclosing,
      IsFaultless (sitesIn source enclosing child) → Readable source child.bindings)
    {type : String} {siblings : List SyntaxTree} {enclosing : List Declaration}
    (faultless : IsFaultless (sitesIn.sitesBelow source type siblings enclosing children)) :
    Readable source (bindings.bindingsBelow type children) := by
  induction children with
  | nil => exact List.forall_mem_nil _
  | cons child rest ih =>
      rcases List.forall_mem_cons.mp childrenReadable with ⟨childReadable, restReadable⟩
      rw [sitesIn.sitesBelow, IsFaultless, List.forall_mem_append] at faultless
      rw [bindings.bindingsBelow, readable_append]
      refine ⟨?_, ih restReadable faultless.2⟩
      cases loose : isLoose type child with
      | true =>
          rw [if_pos (isLoose_iff.mp loose), List.forall_mem_singleton] at faultless
          rcases faultless.1 with ⟨site, read⟩
          rcases Outcome.map_eq_ok_iff.mp read with ⟨declaration, declared, -⟩
          rw [if_pos rfl]
          exact readable_of_declareLoose declared
      | false =>
          have place : ¬ (type = "parameter_list" ∧ child.type = "identifier") := by
            rw [← isLoose_iff, loose]
            exact Bool.false_ne_true
          rw [if_neg place] at faultless
          rw [if_neg Bool.false_ne_true]
          exact childReadable enclosing faultless.1

theorem readable_of_sitesIn {source : Utf8.Octets} {tree : SyntaxTree}
    {enclosing : List Declaration} (faultless : IsFaultless (sitesIn source enclosing tree)) :
    Readable source tree.bindings := by
  induction tree generalizing enclosing with
  | node label children ih =>
      have below (inner : List Declaration)
          (faultlessBelow :
            IsFaultless (sitesIn.sitesBelow source label.type children inner children)) :
          Readable source (bindings.bindingsBelow label.type children) :=
        readable_of_sitesBelow (fun child member _ => ih child member) faultlessBelow
      rw [sitesIn] at faultless
      rw [bindings, readable_append]
      cases declared : declaredKind? label.type with
      | none =>
          rw [declared] at faultless
          exact ⟨List.forall_mem_nil _, below enclosing faultless⟩
      | some kind =>
          rw [declared] at faultless
          cases made : declare source kind (node label children) with
          | error fault =>
              simp only [made, IsFaultless, List.forall_mem_singleton] at faultless
              rcases faultless with ⟨site, impossible⟩
              contradiction
          | ok declaration =>
              simp only [made, IsFaultless, List.forall_mem_cons] at faultless
              exact ⟨readable_of_declare made, below _ faultless.2⟩

theorem sites_eq_of_allSites {source : Utf8.Octets} {tree : SyntaxTree} {sites : List Site}
    (read : allSites source tree = .ok sites) :
    tree.sites source = sites.map .ok := by
  have each := Outcome.mapM_eq_ok_iff.mp read
  clear read
  generalize tree.sites source = results at each
  induction each with
  | nil => rfl
  | cons first rest ih => exact congrArg₂ List.cons first ih

/-- A tree is read without fault exactly if all of its names have a value. -/
theorem exists_allSites_iff {source : Utf8.Octets} {tree : SyntaxTree} :
    (∃ sites, allSites source tree = .ok sites) ↔ tree.IsReadable source := by
  constructor
  · rintro ⟨sites, read⟩
    have faultless : IsFaultless (sitesIn source [] tree) := by
      intro result member
      rcases Outcome.exists_of_mapM_eq_ok read member with ⟨site, -, isSite⟩
      exact ⟨site, isSite⟩
    exact isReadable_iff.mpr (readable_of_sitesIn faultless)
  · intro readable
    rcases exists_allSites readable with ⟨sites, read, -⟩
    exact ⟨sites, read⟩

end CasingLint.SyntaxTree
