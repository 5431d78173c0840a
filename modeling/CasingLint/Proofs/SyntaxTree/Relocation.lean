import CasingLint.Proofs.SyntaxTree.Bindings

/-!
# Trees with their nodes at other places

A tree of the same shape over a changed text has the same types and fields, with every
offset sent to its new place.  Nothing that decides which nodes are names looks at an
offset, so the moved tree binds the moved names under the moved modifiers.
-/

namespace CasingLint.SyntaxTree

/-- The tree with every offset sent to its new place. -/
def relocate (place : Nat → Nat) : SyntaxTree → SyntaxTree
  | node label children =>
    node { label with start := place label.start, stop := place label.stop }
      (relocateAll children)
where
  /-- The trees with every offset sent to its new place. -/
  relocateAll : List SyntaxTree → List SyntaxTree
    | [] => []
    | child :: rest => relocate place child :: relocateAll rest

variable (place : Nat → Nat)

theorem relocateAll_eq (trees : List SyntaxTree) :
    relocate.relocateAll place trees = trees.map (relocate place) := by
  induction trees with
  | nil => rfl
  | cons child rest ih => rw [relocate.relocateAll, ih, List.map_cons]

@[simp]
theorem label_relocate (tree : SyntaxTree) :
    (tree.relocate place).label =
      { tree.label with start := place tree.label.start, stop := place tree.label.stop } := by
  cases tree with
  | node label children => rfl

@[simp]
theorem children_relocate (tree : SyntaxTree) :
    (tree.relocate place).children = tree.children.map (relocate place) := by
  cases tree with
  | node label children => exact relocateAll_eq place children

@[simp]
theorem type_relocate (tree : SyntaxTree) :
    (tree.relocate place).type = tree.type := by
  simp [type]

/-! ## Bindings -/

theorem ofType_relocate (type : String) (siblings : List SyntaxTree) :
    ofType type (siblings.map (relocate place)) =
      (ofType type siblings).map (relocate place) := by
  rw [ofType, ofType, List.filter_map]
  congr 2
  funext sibling
  simp

theorem inField?_relocate (name : String) (siblings : List SyntaxTree) :
    inField? name (siblings.map (relocate place)) =
      (inField? name siblings).map (relocate place) := by
  rw [inField?, inField?, List.find?_map]
  congr 2
  funext sibling
  simp

theorem identifier?_relocate (tree : SyntaxTree) :
    (tree.relocate place).identifier? = tree.identifier?.map (relocate place) := by
  rw [identifier?, identifier?, type_relocate]
  split
  · rfl
  · rfl

theorem declaratorName?_relocate (declarator : SyntaxTree) :
    (declarator.relocate place).declaratorName? =
      declarator.declaratorName?.map (relocate place) := by
  rw [declaratorName?, declaratorName?, children_relocate, inField?_relocate]
  cases inField? "name" declarator.children with
  | none =>
      dsimp only [Option.map_none]
      rw [List.find?_map]
      congr 2
      funext child
      simp
  | some name => exact identifier?_relocate place name

theorem declaratorNames_relocate (siblings : List SyntaxTree) :
    declaratorNames (siblings.map (relocate place)) =
      (declaratorNames siblings).map (relocate place) := by
  rw [declaratorNames, declaratorNames, ofType_relocate, List.flatMap_map, List.map_flatMap]
  congr 1
  funext group
  rw [children_relocate, ofType_relocate, List.filterMap_map, List.map_filterMap]
  congr 1
  funext declarator
  exact declaratorName?_relocate place declarator

theorem nameNodes_relocate (kind : Kind) (tree : SyntaxTree) :
    nameNodes kind (tree.relocate place) = (nameNodes kind tree).map (relocate place) := by
  rw [nameNodes, nameNodes, children_relocate, type_relocate]
  split
  · exact declaratorNames_relocate place tree.children
  · split
    · rfl
    · rw [inField?_relocate]
      cases inField? "name" tree.children with
      | none => rfl
      | some name =>
          dsimp only [Option.map_some, Option.bind_some]
          rw [identifier?_relocate]
          cases name.identifier? with
          | none => rfl
          | some identifier => rfl

/-- The binding with its nodes at their new places. -/
def Binding.relocate (binding : Binding) : Binding :=
  ⟨binding.kind, binding.modifiers.map (SyntaxTree.relocate place),
    binding.name.relocate place⟩

theorem ownBindings_relocate (kind : Kind) (tree : SyntaxTree) :
    ownBindings kind (tree.relocate place) =
      (ownBindings kind tree).map (Binding.relocate place) := by
  rw [ownBindings, ownBindings, nameNodes_relocate, children_relocate, ofType_relocate,
    List.map_map, List.map_map]
  rfl

/-- A moved tree binds the moved names under the moved modifiers. -/
theorem bindings_relocate (tree : SyntaxTree) :
    (tree.relocate place).bindings = tree.bindings.map (Binding.relocate place) := by
  induction tree with
  | node label children ih =>
      have below :
          bindings.bindingsBelow label.type (children.map (relocate place)) =
            (bindings.bindingsBelow label.type children).map (Binding.relocate place) := by
        rw [bindingsBelow_eq, bindingsBelow_eq, List.flatMap_map, List.map_flatMap]
        apply List.flatMap_congr
        intro child member
        rw [isLoose, isLoose, type_relocate, ih child member]
        split
        · rfl
        · rfl
      have own := fun kind => ownBindings_relocate place kind (node label children)
      rw [relocate, relocateAll_eq] at own ⊢
      rw [bindings, bindings, List.map_append, ← below]
      congr 1
      dsimp only
      cases declaredKind? label.type with
      | none => rfl
      | some kind => exact own kind

end CasingLint.SyntaxTree
