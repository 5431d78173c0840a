import CasingLint.Proofs.SyntaxTree.Bindings
import Mathlib.Data.List.Basic

/-!
# The places of declarations in a tree

A node is known by its address, the way from the root by the numbers of the children, and
not by what it looks like: a tree may hold the same node many times.  The lexicographic
order of addresses is the preorder of the nodes.

`Declares` says at which addresses a declaration is made, in terms of the nodes alone, and
`places` walks the tree and lists these addresses.  The main lemmas say that the walk
visits each of them once and in order, and that the addresses of declarations around
another one form a chain, each link of which is followed by the whole chain around it.
-/

namespace CasingLint.SyntaxTree

/-- An address in a tree: the way from the root, by the numbers of the children. -/
abbrev Address := List Nat

/-! ## Addresses -/

/-- The node at an address. -/
def at? (tree : SyntaxTree) : Address → Option SyntaxTree
  | [] => some tree
  | number :: rest => tree.children[number]?.bind fun child => child.at? rest

/-- Does the outer address lie on the way to the inner one, and before its end? -/
def IsAbove (outer inner : Address) : Prop :=
  outer <+: inner ∧ outer ≠ inner

theorem isAbove_nil_cons (number : Nat) (rest : Address) :
    IsAbove [] (number :: rest) :=
  ⟨List.nil_prefix, List.cons_ne_nil number rest ∘ Eq.symm⟩

theorem not_isAbove_nil (outer : Address) :
    ¬ IsAbove outer [] := by
  rintro ⟨start, differs⟩
  exact differs (List.prefix_nil.mp start)

theorem isAbove_cons_cons {first second : Nat} {outer inner : Address} :
    IsAbove (first :: outer) (second :: inner) ↔ first = second ∧ IsAbove outer inner := by
  simp only [IsAbove, List.cons_prefix_cons, ne_eq, List.cons.injEq]
  constructor
  · rintro ⟨⟨rfl, start⟩, differs⟩
    exact ⟨rfl, start, fun same => differs ⟨rfl, same⟩⟩
  · rintro ⟨rfl, start, differs⟩
    exact ⟨⟨rfl, start⟩, fun same => differs same.2⟩

theorem IsAbove.trans {outer middle inner : Address}
    (above : IsAbove outer middle) (below : IsAbove middle inner) :
    IsAbove outer inner := by
  refine ⟨above.1.trans below.1, ?_⟩
  rintro rfl
  exact above.2 (above.1.eq_of_length (Nat.le_antisymm above.1.length_le below.1.length_le))

theorem IsAbove.lt {outer inner : Address} (above : IsAbove outer inner) :
    outer < inner := by
  induction outer generalizing inner with
  | nil =>
      cases inner with
      | nil => exact absurd above (not_isAbove_nil [])
      | cons number rest => exact List.nil_lt_cons number rest
  | cons first outer ih =>
      cases inner with
      | nil => exact absurd above (not_isAbove_nil _)
      | cons second inner =>
          rcases isAbove_cons_cons.mp above with ⟨rfl, below⟩
          exact List.cons_lt_cons_iff.mpr (Or.inr ⟨rfl, ih below⟩)

/-- What comes between an address and one below it is below it too. -/
theorem isAbove_of_between {outer between inner : Address}
    (start : outer <+: inner) (after : outer < between) (before : between < inner) :
    IsAbove outer between := by
  induction outer generalizing between inner with
  | nil =>
      cases between with
      | nil => exact absurd after (List.lt_irrefl [])
      | cons number rest => exact isAbove_nil_cons number rest
  | cons first outer ih =>
      rcases start with ⟨rest, rfl⟩
      cases between with
      | nil => exact absurd after (List.not_lt_nil _)
      | cons second between =>
          rw [List.cons_append, List.cons_lt_cons_iff] at before
          rcases List.cons_lt_cons_iff.mp after with less | ⟨rfl, restAfter⟩
          · rcases before with greater | ⟨same, -⟩
            · exact absurd less (Nat.not_lt_of_lt greater)
            · exact absurd same.symm (Nat.ne_of_lt less)
          · rcases before with impossible | ⟨-, restBefore⟩
            · exact absurd impossible (Nat.lt_irrefl _)
            · exact isAbove_cons_cons.mpr
                ⟨rfl, ih (List.prefix_append outer rest) restAfter restBefore⟩

/-! ## Nodes that declare -/

/-- A node of a declaring type stands at the address. -/
def IsTypedAt (tree : SyntaxTree) (address : Address) : Prop :=
  ∃ found, tree.at? address = some found ∧ (declaredKind? found.type).isSome = true

/-- A bare identifier of a parameter list stands at the address. -/
inductive IsLooseAt : SyntaxTree → Address → Prop
  | here {tree child : SyntaxTree} {number : Nat} :
      tree.children[number]? = some child → isLoose tree.type child = true →
        IsLooseAt tree [number]
  | inside {tree child : SyntaxTree} {number : Nat} {rest : Address} :
      tree.children[number]? = some child → IsLooseAt child rest →
        IsLooseAt tree (number :: rest)

/--
A declaration is made at the address: by a node of a declaring type or by a bare identifier
of a parameter list, and not below such an identifier.
-/
structure Declares (tree : SyntaxTree) (address : Address) : Prop where
  declares : tree.IsTypedAt address ∨ tree.IsLooseAt address
  visible : ∀ outer, IsAbove outer address → ¬ tree.IsLooseAt outer

/-- The declaration at the outer address is made around the inner one. -/
structure IsAround (tree : SyntaxTree) (outer inner : Address) : Prop where
  declares : tree.Declares outer
  above : IsAbove outer inner

/-- Of the declarations made around the inner address, the one at the outer address is nearest. -/
structure IsNearest (tree : SyntaxTree) (outer inner : Address) : Prop where
  around : tree.IsAround outer inner
  nearest : ∀ other, tree.IsAround other inner → other <+: outer

theorem isTypedAt_nil {tree : SyntaxTree} :
    tree.IsTypedAt [] ↔ (declaredKind? tree.type).isSome = true := by
  simp [IsTypedAt, at?]

theorem isTypedAt_cons {tree : SyntaxTree} {number : Nat} {rest : Address} :
    tree.IsTypedAt (number :: rest) ↔
      ∃ child, tree.children[number]? = some child ∧ child.IsTypedAt rest := by
  simp only [IsTypedAt, at?, Option.bind_eq_some_iff]
  constructor
  · rintro ⟨found, ⟨child, inPlace, reached⟩, declared⟩
    exact ⟨child, inPlace, found, reached, declared⟩
  · rintro ⟨child, inPlace, found, reached, declared⟩
    exact ⟨found, ⟨child, inPlace, reached⟩, declared⟩

theorem not_isLooseAt_nil (tree : SyntaxTree) :
    ¬ tree.IsLooseAt [] := by
  rintro ⟨⟩

theorem isLooseAt_cons {tree : SyntaxTree} {number : Nat} {rest : Address} :
    tree.IsLooseAt (number :: rest) ↔
      ∃ child, tree.children[number]? = some child ∧
        ((rest = [] ∧ isLoose tree.type child = true) ∨ child.IsLooseAt rest) := by
  constructor
  · rintro (⟨inPlace, loose⟩ | ⟨inPlace, looseBelow⟩)
    · exact ⟨_, inPlace, Or.inl ⟨rfl, loose⟩⟩
    · exact ⟨_, inPlace, Or.inr looseBelow⟩
  · rintro ⟨child, inPlace, ⟨rfl, loose⟩ | looseBelow⟩
    · exact .here inPlace loose
    · exact .inside inPlace looseBelow

theorem declares_nil {tree : SyntaxTree} :
    tree.Declares [] ↔ (declaredKind? tree.type).isSome = true := by
  constructor
  · rintro ⟨typed | loose, -⟩
    · exact isTypedAt_nil.mp typed
    · exact absurd loose (not_isLooseAt_nil tree)
  · intro declared
    refine ⟨Or.inl (isTypedAt_nil.mpr declared), ?_⟩
    intro outer above
    exact absurd above (not_isAbove_nil outer)

/-- Nothing is declared below a bare identifier, and elsewhere what the child declares. -/
theorem declares_cons {tree : SyntaxTree} {number : Nat} {rest : Address} :
    tree.Declares (number :: rest) ↔
      ∃ child, tree.children[number]? = some child ∧
        if isLoose tree.type child then rest = [] else child.Declares rest := by
  constructor
  · rintro ⟨declares, visible⟩
    have child : ∃ child, tree.children[number]? = some child ∧
        (child.IsTypedAt rest ∨ (rest = [] ∧ isLoose tree.type child = true) ∨
          child.IsLooseAt rest) := by
      rcases declares with typed | loose
      · rcases isTypedAt_cons.mp typed with ⟨child, inPlace, below⟩
        exact ⟨child, inPlace, Or.inl below⟩
      · rcases isLooseAt_cons.mp loose with ⟨child, inPlace, cases⟩
        exact ⟨child, inPlace, Or.inr cases⟩
    rcases child with ⟨child, inPlace, cases⟩
    refine ⟨child, inPlace, ?_⟩
    split
    · rename_i loose
      cases rest with
      | nil => rfl
      | cons next further =>
          have above : IsAbove [number] (number :: next :: further) :=
            isAbove_cons_cons.mpr ⟨rfl, isAbove_nil_cons next further⟩
          exact absurd (IsLooseAt.here inPlace loose) (visible [number] above)
    · rename_i notLoose
      constructor
      · rcases cases with typed | ⟨-, loose⟩ | below
        · exact Or.inl typed
        · exact absurd loose notLoose
        · exact Or.inr below
      · intro outer above looseAbove
        exact visible (number :: outer) (isAbove_cons_cons.mpr ⟨rfl, above⟩)
          (IsLooseAt.inside inPlace looseAbove)
  · rintro ⟨child, inPlace, declares⟩
    split at declares
    · rename_i loose
      subst declares
      refine ⟨Or.inr (IsLooseAt.here inPlace loose), ?_⟩
      intro outer above looseAbove
      cases outer with
      | nil => exact not_isLooseAt_nil tree looseAbove
      | cons first outer =>
          exact not_isAbove_nil outer (isAbove_cons_cons.mp above).2
    · rename_i notLoose
      constructor
      · rcases declares.declares with typed | looseBelow
        · exact Or.inl (isTypedAt_cons.mpr ⟨child, inPlace, typed⟩)
        · exact Or.inr (IsLooseAt.inside inPlace looseBelow)
      · intro outer above looseAbove
        cases outer with
        | nil => exact not_isLooseAt_nil tree looseAbove
        | cons first outer =>
            rcases isAbove_cons_cons.mp above with ⟨rfl, aboveRest⟩
            rcases isLooseAt_cons.mp looseAbove with ⟨other, samePlace, cases⟩
            obtain rfl : child = other := Option.some.inj (inPlace.symm.trans samePlace)
            rcases cases with ⟨-, loose⟩ | looseBelow
            · exact notLoose loose
            · exact declares.visible outer aboveRest looseBelow

/-! ## The walk -/

/-- The address of the root if it is of a declaring type. -/
def ownPlaces (tree : SyntaxTree) : List Address :=
  if (declaredKind? tree.type).isSome then [[]] else []

/-- The addresses of a tree at which declarations are made, in preorder. -/
def places : SyntaxTree → List Address
  | node label children =>
    ownPlaces (node label children) ++ placesFrom label.type 0 children
where
  /-- The addresses in the children of a node of the given type, counted from a number on. -/
  placesFrom (type : String) (number : Nat) : List SyntaxTree → List Address
    | [] => []
    | child :: rest =>
      (if isLoose type child then [[number]] else (places child).map (number :: ·)) ++
        placesFrom type (number + 1) rest

theorem mem_ownPlaces {tree : SyntaxTree} {address : Address} :
    address ∈ tree.ownPlaces ↔ address = [] ∧ (declaredKind? tree.type).isSome = true := by
  rw [ownPlaces]
  split
  · rename_i declared
    simp [declared]
  · rename_i undeclared
    simp [undeclared]

theorem mem_placesFrom {type : String} {number : Nat} {trees : List SyntaxTree}
    {address : Address} :
    address ∈ places.placesFrom type number trees ↔
      ∃ index child rest, trees[index]? = some child ∧ address = (number + index) :: rest ∧
        if isLoose type child then rest = [] else rest ∈ child.places := by
  induction trees generalizing number with
  | nil => simp [places.placesFrom]
  | cons first others ih =>
      rw [places.placesFrom, List.mem_append, ih]
      constructor
      · rintro (here | ⟨index, child, rest, inPlace, rfl, visited⟩)
        · refine ⟨0, first, ?_⟩
          split at here
          · rename_i loose
            exact ⟨[], rfl, List.mem_singleton.mp here, by rw [if_pos loose]⟩
          · rename_i notLoose
            rcases List.mem_map.mp here with ⟨rest, visited, rfl⟩
            exact ⟨rest, rfl, rfl, by rw [if_neg notLoose]; exact visited⟩
        · refine ⟨index + 1, child, rest, inPlace, ?_, visited⟩
          rw [Nat.add_right_comm, Nat.add_assoc]
      · rintro ⟨index, child, rest, inPlace, rfl, visited⟩
        cases index with
        | zero =>
            refine Or.inl ?_
            obtain rfl : first = child := Option.some.inj inPlace
            split at visited
            · rename_i loose
              rw [if_pos loose, visited]
              exact List.mem_singleton_self _
            · rename_i notLoose
              rw [if_neg notLoose]
              exact List.mem_map_of_mem visited
        | succ index =>
            refine Or.inr ⟨index, child, rest, inPlace, ?_, visited⟩
            rw [Nat.add_right_comm, Nat.add_assoc]

/-- The walk lists the addresses at which declarations are made. -/
theorem mem_places {tree : SyntaxTree} {address : Address} :
    address ∈ tree.places ↔ tree.Declares address := by
  induction tree generalizing address with
  | node label children ih =>
      rw [places, List.mem_append, mem_ownPlaces, mem_placesFrom]
      cases address with
      | nil => simp [declares_nil]
      | cons number rest =>
          rw [declares_cons]
          simp only [reduceCtorEq, false_and, false_or, Nat.zero_add, List.cons.injEq]
          constructor
          · rintro ⟨index, child, found, inPlace, ⟨rfl, rfl⟩, visited⟩
            refine ⟨child, inPlace, ?_⟩
            rwa [ih child (List.mem_of_getElem? inPlace)] at visited
          · rintro ⟨child, inPlace, declares⟩
            refine ⟨number, child, rest, inPlace, ⟨rfl, rfl⟩, ?_⟩
            rwa [ih child (List.mem_of_getElem? inPlace)]

theorem pairwise_placesFrom {type : String} {trees : List SyntaxTree}
    (each : ∀ child ∈ trees, child.places.Pairwise (· < ·)) (number : Nat) :
    (places.placesFrom type number trees).Pairwise (· < ·) := by
  induction trees generalizing number with
  | nil => exact List.Pairwise.nil
  | cons first others ih =>
      rcases List.forall_mem_cons.mp each with ⟨firstOrdered, othersOrdered⟩
      rw [places.placesFrom, List.pairwise_append]
      refine ⟨?_, ih othersOrdered (number + 1), ?_⟩
      · split
        · exact List.pairwise_singleton _ _
        · refine List.pairwise_map.mpr (firstOrdered.imp ?_)
          intro left right less
          exact List.cons_lt_cons_iff.mpr (Or.inr ⟨rfl, less⟩)
      · intro left leftMember right rightMember
        have starts : ∃ rest, left = number :: rest := by
          split at leftMember
          · exact ⟨[], List.mem_singleton.mp leftMember⟩
          · rcases List.mem_map.mp leftMember with ⟨rest, -, rfl⟩
            exact ⟨rest, rfl⟩
        rcases starts with ⟨rest, rfl⟩
        rcases mem_placesFrom.mp rightMember with ⟨index, child, other, -, rfl, -⟩
        refine List.cons_lt_cons_iff.mpr (Or.inl ?_)
        exact Nat.lt_of_lt_of_le (Nat.lt_succ_self number) (Nat.le_add_right _ index)

/-- The walk goes forward, so it visits no address twice. -/
theorem pairwise_places (tree : SyntaxTree) :
    tree.places.Pairwise (· < ·) := by
  induction tree with
  | node label children ih =>
      rw [places, List.pairwise_append]
      refine ⟨?_, pairwise_placesFrom ih 0, ?_⟩
      · rw [ownPlaces]
        split
        · exact List.pairwise_singleton _ _
        · exact List.Pairwise.nil
      · intro root rootMember address member
        rcases mem_ownPlaces.mp rootMember with ⟨rfl, -⟩
        rcases mem_placesFrom.mp member with ⟨index, child, rest, -, rfl, -⟩
        exact List.nil_lt_cons _ rest

section Order

variable {addresses : List Address} {left right : Nat} {first second : Address}

theorem lt_of_index_lt (forward : addresses.Pairwise (· < ·)) (before : left < right)
    (leftPlace : addresses[left]? = some first) (rightPlace : addresses[right]? = some second) :
    first < second := by
  rcases List.getElem?_eq_some_iff.mp leftPlace with ⟨leftBound, rfl⟩
  rcases List.getElem?_eq_some_iff.mp rightPlace with ⟨rightBound, rfl⟩
  exact List.pairwise_iff_getElem.mp forward left right leftBound rightBound before

theorem index_lt_of_lt (forward : addresses.Pairwise (· < ·))
    (leftPlace : addresses[left]? = some first) (rightPlace : addresses[right]? = some second)
    (less : first < second) :
    left < right := by
  rcases Nat.lt_trichotomy left right with before | rfl | after
  · exact before
  · rw [leftPlace] at rightPlace
    cases rightPlace
    exact absurd less (List.lt_irrefl first)
  · exact absurd less (List.lt_asymm (lt_of_index_lt forward after rightPlace leftPlace))

end Order

/-! ## The chain around an address -/

/-- The addresses of a declaring type on the way to an address, the nearest first. -/
def around (tree : SyntaxTree) : Address → List Address
  | [] => []
  | number :: rest =>
    (match tree.children[number]? with
      | none => []
      | some child => (child.around rest).map (number :: ·)) ++ tree.ownPlaces

theorem around_cons {tree child : SyntaxTree} {number : Nat}
    (inPlace : tree.children[number]? = some child) (rest : Address) :
    tree.around (number :: rest) = (child.around rest).map (number :: ·) ++ tree.ownPlaces := by
  rw [around, inPlace]

theorem mem_around {tree : SyntaxTree} {outer address : Address} :
    outer ∈ tree.around address ↔ tree.IsTypedAt outer ∧ IsAbove outer address := by
  induction address generalizing tree outer with
  | nil => simp [around, not_isAbove_nil]
  | cons number rest ih =>
      rw [around, List.mem_append, mem_ownPlaces]
      cases outer with
      | nil =>
          rw [isTypedAt_nil]
          constructor
          · rintro (impossible | ⟨-, declared⟩)
            · split at impossible
              · contradiction
              · simp at impossible
            · exact ⟨declared, isAbove_nil_cons number rest⟩
          · rintro ⟨declared, -⟩
            exact Or.inr ⟨rfl, declared⟩
      | cons first outer =>
          rw [isTypedAt_cons, isAbove_cons_cons]
          constructor
          · rintro (inChild | ⟨impossible, -⟩)
            · split at inChild
              · contradiction
              · rename_i child inPlace
                rcases List.mem_map.mp inChild with ⟨other, member, same⟩
                rcases List.cons.inj same with ⟨rfl, rfl⟩
                rcases ih.mp member with ⟨typed, above⟩
                exact ⟨⟨child, inPlace, typed⟩, rfl, above⟩
            · contradiction
          · rintro ⟨⟨child, inPlace, typed⟩, rfl, above⟩
            refine Or.inl ?_
            rw [inPlace]
            exact List.mem_map_of_mem (ih.mpr ⟨typed, above⟩)

/-- The chain goes up. -/
theorem pairwise_around (tree : SyntaxTree) (address : Address) :
    (tree.around address).Pairwise fun nearer further => IsAbove further nearer := by
  induction address generalizing tree with
  | nil => exact List.Pairwise.nil
  | cons number rest ih =>
      rw [around, List.pairwise_append]
      refine ⟨?_, ?_, ?_⟩
      · split
        · exact List.Pairwise.nil
        · rename_i child inPlace
          refine List.pairwise_map.mpr ((ih child).imp ?_)
          intro nearer further above
          exact isAbove_cons_cons.mpr ⟨rfl, above⟩
      · rw [ownPlaces]
        split
        · exact List.pairwise_singleton _ _
        · exact List.Pairwise.nil
      · intro nearer nearerMember further furtherMember
        rcases mem_ownPlaces.mp furtherMember with ⟨rfl, -⟩
        split at nearerMember
        · contradiction
        · rcases List.mem_map.mp nearerMember with ⟨other, -, rfl⟩
          exact isAbove_nil_cons number other

/-- Each link of the chain is followed by the chain around it. -/
theorem exists_around_eq_append {tree : SyntaxTree} {outer address : Address}
    (member : outer ∈ tree.around address) :
    ∃ nearer, tree.around address = nearer ++ outer :: tree.around outer := by
  induction address generalizing tree outer with
  | nil => contradiction
  | cons number rest ih =>
      rcases List.mem_append.mp member with inChild | own
      · split at inChild
        · contradiction
        · rename_i child inPlace
          rcases List.mem_map.mp inChild with ⟨other, otherMember, rfl⟩
          rcases ih otherMember with ⟨nearer, chain⟩
          refine ⟨nearer.map (number :: ·), ?_⟩
          rw [around_cons inPlace, around_cons inPlace, chain]
          simp
      · rcases mem_ownPlaces.mp own with ⟨rfl, declared⟩
        have root : tree.ownPlaces = [[]] := if_pos declared
        exact ⟨_, congrArg (_ ++ ·) root⟩

section Visible

variable {tree : SyntaxTree} {outer address : Address}

/-- The chain around a declaration holds the declarations around it. -/
theorem mem_around_iff_isAround (declares : tree.Declares address) :
    outer ∈ tree.around address ↔ tree.IsAround outer address := by
  rw [mem_around]
  constructor
  · rintro ⟨typed, above⟩
    refine ⟨⟨Or.inl typed, ?_⟩, above⟩
    intro further aboveOuter
    exact declares.visible further (aboveOuter.trans above)
  · rintro ⟨⟨typed | loose, -⟩, above⟩
    · exact ⟨typed, above⟩
    · exact absurd loose (declares.visible outer above)

/-- A declaration has none around it, or a nearest one, and around it the rest of the chain. -/
theorem around_cases (declares : tree.Declares address) :
    (tree.around address = [] ∧ ∀ outer, ¬ tree.IsAround outer address) ∨
      ∃ outer, tree.IsNearest outer address ∧
        tree.around address = outer :: tree.around outer := by
  have isAround := fun outer => @mem_around_iff_isAround tree outer address declares
  cases chain : tree.around address with
  | nil =>
      refine Or.inl ⟨rfl, ?_⟩
      intro outer around
      have member := (isAround outer).mpr around
      rw [chain] at member
      contradiction
  | cons outer further =>
      have upward := pairwise_around tree address
      rw [chain, List.pairwise_cons] at upward
      have member : outer ∈ tree.around address := by
        rw [chain]
        exact List.mem_cons_self
      refine Or.inr ⟨outer, ⟨(isAround outer).mp member, ?_⟩, ?_⟩
      · intro other around
        have otherMember := (isAround other).mpr around
        rw [chain] at otherMember
        rcases List.mem_cons.mp otherMember with rfl | later
        · exact List.prefix_refl other
        · exact (upward.1 other later).1
      · rcases exists_around_eq_append member with ⟨nearer, split⟩
        rw [chain] at split
        cases nearer with
        | nil => exact split
        | cons first others =>
            -- The first link would come back later in the chain, above itself.
            rcases List.cons.inj split with ⟨rfl, later⟩
            have again : outer ∈ further := by
              rw [later]
              exact List.mem_append_right others List.mem_cons_self
            exact absurd rfl (upward.1 outer again).2

end Visible

end CasingLint.SyntaxTree
