import CasingLint.Proofs.SyntaxTree.Bindings
import CasingLint.Proofs.Text.Utf8
import Mathlib.Data.List.Flatten
import Mathlib.Data.List.Pairwise
import Mathlib.Data.List.Perm.Subperm
import Mathlib.Tactic.MkIffOfInductiveProp

/-!
# Where the names of a tree lie

In a tree as a parser gives it, children lie inside their parent, one after the other, and
no name lies below another name.  The tips of such a tree, the outermost nodes of certain
types, follow each other.  Every name that the tree binds is a tip, and none is bound
twice: the names are, up to their order, some of the tips.  So no two names overlap.
-/

namespace CasingLint.SyntaxTree

open CasingLint.Text

/-! ## Trees in place -/

/-- Does the left node end before the right one begins? -/
def IsBefore (left right : SyntaxTree) : Prop :=
  left.label.stop ≤ right.label.start

/-- A node whose children lie inside it, one after the other. -/
@[mk_iff]
structure IsNested (tree : SyntaxTree) : Prop where
  forward : tree.label.start ≤ tree.label.stop
  inside : ∀ child ∈ tree.children,
    tree.label.start ≤ child.label.start ∧ child.label.stop ≤ tree.label.stop
  ordered : tree.children.Pairwise IsBefore

/-- A node that spans whole characters of a text. -/
@[mk_iff]
structure IsOver (text : List Char) (tree : SyntaxTree) : Prop where
  spanned : tree.label.given? = none
  starts : tree.label.start ∈ Utf8.boundaries text
  stops : tree.label.stop ∈ Utf8.boundaries text

/-- A node type that can be a name. -/
def isNameType (type : String) : Bool :=
  type == "identifier" || type == "implicit_parameter"

/-- A node that has no name below it if it is of one of the chosen types. -/
def IsBare (isTip : String → Bool) (tree : SyntaxTree) : Prop :=
  isTip tree.type = true → ∀ below ∈ tree.inner, ¬ isNameType below.type = true

/--
A tree over a text as a parser gives it: every node in place, on characters of the text,
and no name below a node of the chosen types.
-/
@[mk_iff]
structure IsTreeOf (isTip : String → Bool) (text : String) (tree : SyntaxTree) : Prop where
  nested : ∀ found ∈ tree.nodes, found.IsNested
  onText : ∀ found ∈ tree.nodes, found.IsOver text.toList
  bare : ∀ found ∈ tree.nodes, found.IsBare isTip

instance (left right : SyntaxTree) : Decidable (IsBefore left right) :=
  inferInstanceAs (Decidable (_ ≤ _))

instance (tree : SyntaxTree) : Decidable tree.IsNested :=
  decidable_of_iff' _ (isNested_iff tree)

instance (text : List Char) (tree : SyntaxTree) : Decidable (tree.IsOver text) :=
  decidable_of_iff' _ (isOver_iff text tree)

instance (isTip : String → Bool) (tree : SyntaxTree) : Decidable (tree.IsBare isTip) :=
  inferInstanceAs (Decidable (_ → ∀ below ∈ tree.inner, ¬ isNameType below.type = true))

instance (isTip : String → Bool) (text : String) (tree : SyntaxTree) :
    Decidable (tree.IsTreeOf isTip text) :=
  decidable_of_iff' _ (isTreeOf_iff isTip text tree)

theorem forall_nodes_of_mem_children {property : SyntaxTree → Prop} {tree child : SyntaxTree}
    (holds : ∀ found ∈ tree.nodes, property found) (member : child ∈ tree.children) :
    ∀ found ∈ child.nodes, property found := by
  intro found below
  exact holds found (mem_nodes_of_mem_children member below)

theorem holds_root {property : SyntaxTree → Prop} {tree : SyntaxTree}
    (holds : ∀ found ∈ tree.nodes, property found) :
    property tree :=
  holds tree (mem_nodes_self tree)

/-! ## Tips -/

/-- The outermost nodes of the chosen types, from left to right. -/
def tips (isTip : String → Bool) : SyntaxTree → List SyntaxTree
  | node label children =>
    if isTip label.type then [node label children] else tipsOfAll children
where
  /-- The tips of trees that stand side by side. -/
  tipsOfAll : List SyntaxTree → List SyntaxTree
    | [] => []
    | child :: rest => tips isTip child ++ tipsOfAll rest

theorem tipsOfAll_eq (isTip : String → Bool) (trees : List SyntaxTree) :
    tips.tipsOfAll isTip trees = trees.flatMap (tips isTip) := by
  induction trees with
  | nil => rfl
  | cons child rest ih => simp [tips.tipsOfAll, ih]

theorem tips_of_isTip {isTip : String → Bool} {tree : SyntaxTree}
    (tip : isTip tree.type = true) :
    tree.tips isTip = [tree] := by
  cases tree with
  | node label children => exact if_pos tip

theorem tips_of_not_isTip {isTip : String → Bool} {tree : SyntaxTree}
    (notTip : isTip tree.type = false) :
    tree.tips isTip = tree.children.flatMap (tips isTip) := by
  cases tree with
  | node label children =>
      rw [tips, if_neg (by simpa [type] using notTip), tipsOfAll_eq]
      rfl

theorem mem_nodes_of_mem_tips {isTip : String → Bool} {tree tip : SyntaxTree}
    (member : tip ∈ tree.tips isTip) :
    tip ∈ tree.nodes := by
  induction tree with
  | node label children ih =>
      cases isOne : isTip (node label children).type with
      | true =>
          rw [tips_of_isTip isOne, List.mem_singleton] at member
          subst member
          exact mem_nodes_self _
      | false =>
          rw [tips_of_not_isTip isOne, List.mem_flatMap] at member
          rcases member with ⟨child, childMember, below⟩
          exact mem_nodes_of_mem_children childMember (ih child childMember below)

/-- The tips of a tree lie inside it. -/
theorem tips_inside {isTip : String → Bool} {tree : SyntaxTree}
    (nested : ∀ found ∈ tree.nodes, found.IsNested) :
    ∀ tip ∈ tree.tips isTip,
      tree.label.start ≤ tip.label.start ∧ tip.label.stop ≤ tree.label.stop := by
  induction tree with
  | node label children ih =>
      intro tip member
      cases isOne : isTip (node label children).type with
      | true =>
          rw [tips_of_isTip isOne, List.mem_singleton] at member
          subst member
          exact ⟨Nat.le_refl _, Nat.le_refl _⟩
      | false =>
          rw [tips_of_not_isTip isOne, List.mem_flatMap] at member
          rcases member with ⟨child, childMember, below⟩
          have outer := (holds_root nested).inside child childMember
          have within := ih child childMember
            (forall_nodes_of_mem_children nested childMember) tip below
          exact ⟨Nat.le_trans outer.1 within.1, Nat.le_trans within.2 outer.2⟩

/-- The tips of a tree follow each other. -/
theorem pairwise_tips {isTip : String → Bool} {tree : SyntaxTree}
    (nested : ∀ found ∈ tree.nodes, found.IsNested) :
    (tree.tips isTip).Pairwise IsBefore := by
  induction tree with
  | node label children ih =>
      cases isOne : isTip (node label children).type with
      | true =>
          rw [tips_of_isTip isOne]
          exact List.pairwise_singleton _ _
      | false =>
          rw [tips_of_not_isTip isOne, List.pairwise_flatMap]
          constructor
          · intro child member
            exact ih child member (forall_nodes_of_mem_children nested member)
          · refine List.Pairwise.imp_of_mem ?_ (holds_root nested).ordered
            intro left right leftMember rightMember before leftTip leftBelow rightTip rightBelow
            have leftInside := tips_inside
              (forall_nodes_of_mem_children nested leftMember) leftTip leftBelow
            have rightInside := tips_inside
              (forall_nodes_of_mem_children nested rightMember) rightTip rightBelow
            exact Nat.le_trans leftInside.2 (Nat.le_trans before rightInside.1)

/-! ## Names are nodes -/

theorem type_of_identifier? {tree name : SyntaxTree}
    (found : tree.identifier? = some name) :
    tree = name ∧ name.type = "identifier" := by
  rw [identifier?] at found
  split at found
  · rename_i isIdentifier
    cases found
    exact ⟨rfl, isIdentifier⟩
  · contradiction

theorem mem_of_name {siblings : List SyntaxTree} {name : SyntaxTree}
    (found : (inField? "name" siblings).bind identifier? = some name) :
    name ∈ siblings ∧ name.type = "identifier" := by
  rcases Option.bind_eq_some_iff.mp found with ⟨child, inField, isIdentifier⟩
  rcases type_of_identifier? isIdentifier with ⟨rfl, type⟩
  exact ⟨List.mem_of_find?_eq_some inField, type⟩

theorem mem_of_declaratorName? {declarator name : SyntaxTree}
    (found : declaratorName? declarator = some name) :
    name ∈ declarator.children ∧ name.type = "identifier" := by
  rw [declaratorName?] at found
  split at found
  · rename_i child inField
    rcases type_of_identifier? found with ⟨rfl, type⟩
    exact ⟨List.mem_of_find?_eq_some inField, type⟩
  · exact ⟨List.mem_of_find?_eq_some found, by simpa using List.find?_some found⟩

theorem mem_inner_of_mem_children {tree child : SyntaxTree}
    (member : child ∈ tree.children) :
    child ∈ tree.inner :=
  mem_inner.mpr ⟨child, member, mem_nodes_self child⟩

theorem mem_inner_of_mem_inner {tree child found : SyntaxTree}
    (member : child ∈ tree.children) (below : found ∈ child.inner) :
    found ∈ tree.inner := by
  refine mem_inner.mpr ⟨child, member, ?_⟩
  rw [nodes_eq]
  exact List.mem_cons_of_mem child below

/-- The names that a group of declarators, or one of them, offers to the declaration around it. -/
def offered (tree : SyntaxTree) : List SyntaxTree :=
  if tree.type = "variable_declarator" then
    tree.declaratorName?.toList
  else if tree.type = "variable_declaration" then
    (ofType "variable_declarator" tree.children).filterMap declaratorName?
  else
    []

theorem mem_inner_of_mem_offered {tree name : SyntaxTree}
    (member : name ∈ tree.offered) :
    name ∈ tree.inner ∧ name.type = "identifier" := by
  rw [offered] at member
  split at member
  · rcases mem_of_declaratorName? (Option.mem_toList.mp member) with ⟨child, type⟩
    exact ⟨mem_inner_of_mem_children child, type⟩
  · split at member
    · rcases List.mem_filterMap.mp member with ⟨declarator, isDeclarator, found⟩
      rcases mem_of_declaratorName? found with ⟨child, type⟩
      exact ⟨mem_inner_of_mem_inner (List.mem_of_mem_filter isDeclarator)
        (mem_inner_of_mem_children child), type⟩
    · contradiction

/-- The names of a declaration with declarators are what its children offer. -/
theorem declaratorNames_sublist (siblings : List SyntaxTree) :
    (declaratorNames siblings).Sublist (siblings.flatMap offered) := by
  have groups :
      declaratorNames siblings = (ofType "variable_declaration" siblings).flatMap offered := by
    apply List.flatMap_congr
    intro group member
    have type : group.type = "variable_declaration" := by
      simpa using (List.mem_filter.mp member).2
    simp [offered, type]
  rw [groups]
  exact List.filter_sublist.flatMap offered

theorem offered_sublist {tree : SyntaxTree}
    (group : tree.type = "variable_declaration") :
    tree.offered.Sublist (tree.children.flatMap offered) := by
  have declarators :
      tree.offered = (ofType "variable_declarator" tree.children).flatMap offered := by
    rw [offered, if_neg (by simp [group]), if_pos group, List.filterMap_eq_flatMap_toList]
    apply List.flatMap_congr
    intro declarator member
    have type : declarator.type = "variable_declarator" := by
      simpa using (List.mem_filter.mp member).2
    simp [offered, type]
  rw [declarators]
  exact List.filter_sublist.flatMap offered

/-- A node that binds names by itself is a name, or binds identifiers below it. -/
theorem nameNodes_cases (kind : Kind) (tree : SyntaxTree) :
    (tree.type = "implicit_parameter" ∧ nameNodes kind tree = [tree]) ∨
      ∀ name ∈ nameNodes kind tree, name ∈ tree.inner ∧ name.type = "identifier" := by
  rw [nameNodes]
  split
  · refine Or.inr ?_
    intro name member
    rcases List.mem_flatMap.mp ((declaratorNames_sublist tree.children).subset member) with
      ⟨child, childMember, isOffered⟩
    rcases mem_inner_of_mem_offered isOffered with ⟨below, type⟩
    exact ⟨mem_inner_of_mem_inner childMember below, type⟩
  · split
    · rename_i isParameter
      exact Or.inl ⟨isParameter, rfl⟩
    · refine Or.inr ?_
      intro name member
      rcases mem_of_name (Option.mem_toList.mp member) with ⟨child, type⟩
      exact ⟨mem_inner_of_mem_children child, type⟩

theorem isNameType_of_identifier {tree : SyntaxTree} (type : tree.type = "identifier") :
    isNameType tree.type = true := by
  rw [type]
  decide

theorem namesUnder_cases {type : String} {child name : SyntaxTree}
    (member : name ∈ namesUnder type child) :
    (name = child ∧ child.type = "identifier") ∨ name ∈ child.names := by
  rw [namesUnder] at member
  split at member
  · rename_i loose
    exact Or.inl ⟨List.mem_singleton.mp member, (isLoose_iff.mp loose).2⟩
  · exact Or.inr member

/-- The names that a tree binds are nodes of the tree, of a type that can be a name. -/
theorem mem_nodes_of_mem_names {tree name : SyntaxTree}
    (member : name ∈ tree.names) :
    name ∈ tree.nodes ∧ isNameType name.type = true := by
  induction tree with
  | node label children ih =>
      rw [names_eq, List.mem_append, List.mem_flatMap] at member
      rcases member with own | ⟨child, childMember, below⟩
      · rw [ownNames] at own
        split at own
        · contradiction
        · rename_i kind declared
          rcases nameNodes_cases kind (node label children) with ⟨isParameter, single⟩ | identifiers
          · rw [single, List.mem_singleton] at own
            subst own
            exact ⟨mem_nodes_self _, by rw [isParameter]; decide⟩
          · rcases identifiers name own with ⟨inside, type⟩
            refine ⟨?_, isNameType_of_identifier type⟩
            rw [nodes_eq]
            exact List.mem_cons_of_mem _ inside
      · rcases namesUnder_cases below with ⟨rfl, type⟩ | bound
        · exact ⟨mem_nodes_of_mem_children childMember (mem_nodes_self name),
            isNameType_of_identifier type⟩
        · rcases ih child childMember bound with ⟨inside, type⟩
          exact ⟨mem_nodes_of_mem_children childMember inside, type⟩

theorem mem_inner_of_mem_namesUnder {tree child name : SyntaxTree} {type : String}
    (childMember : child ∈ tree.children) (member : name ∈ namesUnder type child) :
    name ∈ tree.inner ∧ isNameType name.type = true := by
  rcases namesUnder_cases member with ⟨rfl, isIdentifier⟩ | bound
  · exact ⟨mem_inner_of_mem_children childMember, isNameType_of_identifier isIdentifier⟩
  · rcases mem_nodes_of_mem_names bound with ⟨inside, isName⟩
    exact ⟨mem_inner.mpr ⟨child, childMember, inside⟩, isName⟩

/-! ## Names are tips -/

/-- A node with no names below it binds itself at most. -/
theorem names_of_isTip {isTip : String → Bool} {tree : SyntaxTree}
    (bare : tree.IsBare isTip) (tip : isTip tree.type = true) :
    tree.names = [] ∨ (tree.type = "implicit_parameter" ∧ tree.names = [tree]) := by
  have noneBelow : tree.children.flatMap (namesUnder tree.type) = [] := by
    apply List.eq_nil_iff_forall_not_mem.mpr
    intro name member
    rcases List.mem_flatMap.mp member with ⟨child, childMember, below⟩
    rcases mem_inner_of_mem_namesUnder childMember below with ⟨inside, isName⟩
    exact absurd isName (bare tip name inside)
  rw [names_eq, noneBelow, List.append_nil, ownNames]
  split
  · exact Or.inl rfl
  · rename_i kind declared
    rcases nameNodes_cases kind tree with itself | identifiers
    · exact Or.inr itself
    · refine Or.inl (List.eq_nil_iff_forall_not_mem.mpr ?_)
      intro name member
      rcases identifiers name member with ⟨inside, type⟩
      exact absurd (isNameType_of_identifier type) (bare tip name inside)

theorem names_of_identifier {isTip : String → Bool} {tree : SyntaxTree}
    (bare : tree.IsBare isTip) (tip : isTip tree.type = true)
    (type : tree.type = "identifier") :
    tree.names = [] := by
  rcases names_of_isTip bare tip with none | ⟨isParameter, -⟩
  · exact none
  · rw [type] at isParameter
    contradiction

theorem offered_of_isTip {isTip : String → Bool} {tree : SyntaxTree}
    (bare : tree.IsBare isTip) (tip : isTip tree.type = true) :
    tree.offered = [] := by
  apply List.eq_nil_iff_forall_not_mem.mpr
  intro name member
  rcases mem_inner_of_mem_offered member with ⟨inside, type⟩
  exact absurd (isNameType_of_identifier type) (bare tip name inside)

theorem flatMap_subperm {input output : Type} {inputs : List input}
    {left right : input → List output}
    (each : ∀ member ∈ inputs, (left member).Subperm (right member)) :
    (inputs.flatMap left).Subperm (inputs.flatMap right) := by
  induction inputs with
  | nil => exact List.Subperm.refl []
  | cons first rest ih =>
      rcases List.forall_mem_cons.mp each with ⟨firstSubperm, restSubperm⟩
      rw [List.flatMap_cons, List.flatMap_cons]
      exact firstSubperm.append (ih restSubperm)

section Children

variable {isTip : String → Bool} {children : List SyntaxTree}

/-- What the children of a node offer and bind are tips of the children. -/
theorem subperm_offered_append_names (namesAreTips : ∀ type, isNameType type → isTip type)
    (bare : ∀ child ∈ children, child.IsBare isTip)
    (childrenSubperm : ∀ child ∈ children,
      (child.offered ++ child.names).Subperm (child.tips isTip))
    (type : String) :
    (children.flatMap offered ++ children.flatMap (namesUnder type)).Subperm
      (children.flatMap (tips isTip)) := by
  apply (List.flatMap_append_perm children offered (namesUnder type)).subperm.trans
  apply flatMap_subperm
  intro child member
  rw [namesUnder]
  split
  · rename_i loose
    have isIdentifier := (isLoose_iff.mp loose).2
    have tip := namesAreTips child.type (isNameType_of_identifier isIdentifier)
    rw [offered_of_isTip (bare child member) tip, tips_of_isTip tip]
    exact List.Subperm.refl [child]
  · exact childrenSubperm child member

/-- An identifier among the children can be bound by their parent. -/
theorem subperm_cons_names (namesAreTips : ∀ type, isNameType type → isTip type)
    (bare : ∀ child ∈ children, child.IsBare isTip)
    (childrenSubperm : ∀ child ∈ children,
      (child.names).Subperm (child.tips isTip))
    {name : SyntaxTree} (member : name ∈ children) (isIdentifier : name.type = "identifier") :
    (name :: children.flatMap names).Subperm (children.flatMap (tips isTip)) := by
  have tip := namesAreTips name.type (isNameType_of_identifier isIdentifier)
  have noNames := names_of_identifier (bare name member) tip isIdentifier
  rcases List.append_of_mem member with ⟨before, after, rfl⟩
  rcases List.forall_mem_append.mp childrenSubperm with ⟨beforeSubperm, restSubperm⟩
  rcases List.forall_mem_cons.mp restSubperm with ⟨-, afterSubperm⟩
  have front : (before.flatMap names).Subperm (before.flatMap (tips isTip)) :=
    flatMap_subperm beforeSubperm
  have back : (after.flatMap names).Subperm (after.flatMap (tips isTip)) :=
    flatMap_subperm afterSubperm
  simp only [List.flatMap_append, List.flatMap_cons, noNames, List.nil_append,
    tips_of_isTip tip, List.singleton_append]
  exact (List.perm_middle.symm.subperm).trans
    (front.append ((List.subperm_cons name).mpr back))

end Children

theorem namesUnder_of_ne {type : String} (notList : type ≠ "parameter_list") :
    namesUnder type = names := by
  funext child
  have notLoose : ¬ isLoose type child = true := by
    intro loose
    exact notList (isLoose_iff.mp loose).1
  rw [namesUnder, if_neg notLoose]

theorem offered_of_declared {tree : SyntaxTree} {kind : Kind}
    (declared : declaredKind? tree.type = some kind) :
    tree.offered = [] := by
  rw [offered]
  split
  · rename_i type
    rw [type] at declared
    contradiction
  · split
    · rename_i type
      rw [type] at declared
      contradiction
    · rfl

/-- What a node offers or binds by itself comes from its children, or is one of them. -/
theorem offered_append_ownNames_cases {tree : SyntaxTree}
    (notName : isNameType tree.type = false) :
    (tree.offered ++ tree.ownNames).Sublist (tree.children.flatMap offered) ∨
      (tree.type ≠ "parameter_list" ∧
        ∃ name ∈ tree.children,
          name.type = "identifier" ∧ tree.offered ++ tree.ownNames = [name]) := by
  rw [ownNames]
  cases declared : declaredKind? tree.type with
  | none =>
      rw [List.append_nil]
      by_cases declarator : tree.type = "variable_declarator"
      · rw [offered, if_pos declarator]
        cases found : tree.declaratorName? with
        | none => exact Or.inl (List.nil_sublist _)
        | some name =>
            rcases mem_of_declaratorName? found with ⟨child, isIdentifier⟩
            exact Or.inr ⟨by simp [declarator], name, child, isIdentifier, rfl⟩
      · by_cases group : tree.type = "variable_declaration"
        · exact Or.inl (offered_sublist group)
        · rw [offered, if_neg declarator, if_neg group]
          exact Or.inl (List.nil_sublist _)
  | some kind =>
      rw [offered_of_declared declared, List.nil_append]
      dsimp only
      rw [nameNodes]
      split
      · exact Or.inl (declaratorNames_sublist tree.children)
      · split
        · rename_i isParameter
          rw [isParameter] at notName
          contradiction
        · cases found : (inField? "name" tree.children).bind identifier? with
          | none => exact Or.inl (List.nil_sublist _)
          | some name =>
              rcases mem_of_name found with ⟨child, isIdentifier⟩
              refine Or.inr ⟨?_, name, child, isIdentifier, rfl⟩
              intro list
              rw [list] at declared
              contradiction

/-- What a tree offers and binds are tips of the tree, each at most once. -/
theorem subperm_tips {isTip : String → Bool} {tree : SyntaxTree}
    (namesAreTips : ∀ type, isNameType type → isTip type)
    (bare : ∀ found ∈ tree.nodes, found.IsBare isTip) :
    (tree.offered ++ tree.names).Subperm (tree.tips isTip) := by
  induction tree with
  | node label children ih =>
      have bareChildren : ∀ child ∈ children, child.IsBare isTip := by
        intro child member
        exact holds_root (forall_nodes_of_mem_children bare member)
      have subpermChildren : ∀ child ∈ children,
          (child.offered ++ child.names).Subperm (child.tips isTip) := by
        intro child member
        exact ih child member (forall_nodes_of_mem_children bare member)
      cases isOne : isTip (node label children).type with
      | true =>
          rw [offered_of_isTip (holds_root bare) isOne, tips_of_isTip isOne, List.nil_append]
          rcases names_of_isTip (holds_root bare) isOne with none | ⟨-, itself⟩
          · rw [none]
            exact List.nil_subperm
          · rw [itself]
      | false =>
          have notName : isNameType (node label children).type = false := by
            rw [Bool.eq_false_iff]
            intro isName
            rw [namesAreTips _ isName] at isOne
            contradiction
          rw [tips_of_not_isTip isOne, names_eq, ← List.append_assoc]
          rcases offered_append_ownNames_cases notName with
            fromChildren | ⟨notList, name, member, isIdentifier, single⟩
          · exact (fromChildren.append_right _).subperm.trans
              (subperm_offered_append_names namesAreTips bareChildren subpermChildren _)
          · rw [single, namesUnder_of_ne notList]
            refine subperm_cons_names namesAreTips bareChildren ?_ member isIdentifier
            intro child childMember
            exact (List.sublist_append_right _ _).subperm.trans
              (subpermChildren child childMember)

/-! ## No overlap -/

/-- Does one of the two nodes end before the other begins? -/
def IsApart (left right : SyntaxTree) : Prop :=
  IsBefore left right ∨ IsBefore right left

instance : Std.Symm IsApart where
  symm _ _ := Or.symm

theorem pairwise_isApart_tips {isTip : String → Bool} {tree : SyntaxTree}
    (nested : ∀ found ∈ tree.nodes, found.IsNested) :
    (tree.tips isTip).Pairwise IsApart :=
  (pairwise_tips nested).imp fun before => Or.inl before

/-- No two names that a tree binds overlap. -/
theorem pairwise_isApart_names {isTip : String → Bool} {tree : SyntaxTree}
    (namesAreTips : ∀ type, isNameType type → isTip type)
    (nested : ∀ found ∈ tree.nodes, found.IsNested)
    (bare : ∀ found ∈ tree.nodes, found.IsBare isTip) :
    tree.names.Pairwise IsApart := by
  have namesSubperm : tree.names.Subperm (tree.tips isTip) :=
    (List.sublist_append_right _ _).subperm.trans (subperm_tips namesAreTips bare)
  rcases namesSubperm with ⟨arranged, same, among⟩
  exact same.pairwise ((pairwise_isApart_tips nested).sublist among)
    fun separate => Or.symm separate

/-- A node with no names below it binds nothing but a parameter. -/
theorem kind_of_isTip {isTip : String → Bool} {tree : SyntaxTree}
    (bare : tree.IsBare isTip) (tip : isTip tree.type = true)
    {binding : Binding} (member : binding ∈ tree.bindings) :
    binding.kind = .parameter := by
  cases tree with
  | node label children =>
      rw [bindings, List.mem_append] at member
      rcases member with own | below
      · split at own
        · contradiction
        · rename_i kind declared
          rcases List.mem_map.mp own with ⟨name, isOwn, rfl⟩
          rcases nameNodes_cases kind (node label children) with ⟨isParameter, -⟩ | identifiers
          · have parameter : declaredKind? label.type = some .parameter := by
              rw [show label.type = "implicit_parameter" from isParameter]
              rfl
            exact Option.some.inj (declared.symm.trans parameter)
          · rcases identifiers name isOwn with ⟨inside, type⟩
            exact absurd (isNameType_of_identifier type) (bare tip name inside)
      · have named : binding.name ∈ children.flatMap (namesUnder label.type) := by
          rw [← map_name_bindingsBelow]
          exact List.mem_map_of_mem below
        rcases List.mem_flatMap.mp named with ⟨child, childMember, inChild⟩
        rcases
            mem_inner_of_mem_namesUnder (show child ∈ (node label children).children from childMember)
              inChild with
          ⟨inside, isName⟩
        exact absurd isName (bare tip binding.name inside)

/-- The modifiers of a field that binds a name are tips. -/
theorem mem_tips_of_mem_modifiers {isTip : String → Bool} {tree : SyntaxTree}
    (modifiersAreTips : isTip "modifier" = true)
    (bare : ∀ found ∈ tree.nodes, found.IsBare isTip)
    {binding : Binding} (member : binding ∈ tree.bindings) (field : binding.kind = .field)
    {modifier : SyntaxTree} (written : modifier ∈ binding.modifiers) :
    modifier ∈ tree.tips isTip ∧ modifier.type = "modifier" := by
  induction tree with
  | node label children ih =>
      cases isOne : isTip (node label children).type with
      | true =>
          rw [kind_of_isTip (holds_root bare) isOne member] at field
          contradiction
      | false =>
          rw [bindings, List.mem_append] at member
          rw [tips_of_not_isTip isOne, List.mem_flatMap]
          rcases member with own | below
          · split at own
            · contradiction
            · rename_i kind declared
              rcases List.mem_map.mp own with ⟨name, -, rfl⟩
              rcases List.mem_filter.mp written with ⟨child, type⟩
              have isModifier : modifier.type = "modifier" := by
                simpa using type
              refine ⟨⟨modifier, child, ?_⟩, isModifier⟩
              rw [tips_of_isTip (by rw [isModifier]; exact modifiersAreTips)]
              exact List.mem_singleton_self modifier
          · rw [bindingsBelow_eq, List.mem_flatMap] at below
            rcases below with ⟨child, childMember, inChild⟩
            split at inChild
            · rw [List.mem_singleton] at inChild
              rw [inChild] at field
              contradiction
            · rcases
                  ih child childMember (forall_nodes_of_mem_children bare childMember) inChild with
                ⟨tip, isModifier⟩
              exact ⟨⟨child, childMember, tip⟩, isModifier⟩

end CasingLint.SyntaxTree
