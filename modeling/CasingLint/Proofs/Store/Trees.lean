import CasingLint.Proofs.Store

/-!
# Trees of directories

In a directory every name is a proper one and stands for one entry.  A tree in which this holds
everywhere is the same tree in whatever order each of its directories lists its entries: every way
leads to the same file, or to a directory that is listed anew, or to nothing.
-/

namespace CasingLint

namespace Entry

theorem induction {property : Entry → Prop}
    (file : ∀ content, property (file content))
    (directory : ∀ entries, (∀ each ∈ entries, property each.2) → property (directory entries))
    (entry : Entry) :
    property entry := by
  refine @Entry.rec property (fun entries => ∀ each ∈ entries, property each.2)
    (fun each => property each.2) file directory ?_ ?_ ?_ entry
  · simp
  · intro each rest holds restHolds
    exact List.forall_mem_cons.mpr ⟨holds, restHolds⟩
  · intro name entry holds
    exact holds

/-! ## Proper trees -/

/-- In every directory of the tree the names are proper ones, and no two of them are the same. -/
structure IsTree (entry : Entry) : Prop where
  distinct : ∀ {way : List String} {inner : List (String × Entry)},
    entry.at? way = some (directory inner) → (inner.map Prod.fst).Nodup
  proper : ∀ {way : List String} {inner : List (String × Entry)},
    entry.at? way = some (directory inner) → ∀ each ∈ inner, Path.IsName each.1

theorem isTree_file (content : Except Refusal Text.Utf8.Octets) : IsTree (file content) := by
  have none : ∀ {way : List String} {inner : List (String × Entry)},
      at? way (file content) ≠ some (directory inner) := by
    intro way inner found
    cases way with
    | nil => cases found
    | cons _ _ => cases found
  exact ⟨fun found => absurd found none, fun found => absurd found none⟩

theorem isTree_directory {entries : List (String × Entry)}
    (distinct : (entries.map Prod.fst).Nodup) (proper : ∀ each ∈ entries, Path.IsName each.1)
    (trees : ∀ each ∈ entries, IsTree each.2) :
    IsTree (directory entries) := by
  have inside : ∀ {way : List String} {inner : List (String × Entry)},
      at? way (directory entries) = some (directory inner) →
        (inner.map Prod.fst).Nodup ∧ ∀ each ∈ inner, Path.IsName each.1 := by
    intro way inner found
    cases way with
    | nil =>
        cases found
        exact ⟨distinct, proper⟩
    | cons name rest =>
        rw [at?_cons, Option.bind_eq_some_iff] at found
        rcases found with ⟨below, held, foundBelow⟩
        have tree := trees _ ((mem_iff_lookup distinct).mpr held)
        exact ⟨tree.distinct foundBelow, tree.proper foundBelow⟩
  exact ⟨fun found => (inside found).1, fun found => (inside found).2⟩

namespace IsTree

variable {entry : Entry} {entries : List (String × Entry)} {name : String}

theorem nodup (tree : IsTree (directory entries)) : (entries.map Prod.fst).Nodup :=
  tree.distinct (at?.eq_1 _)

theorem isName (tree : IsTree (directory entries)) {each : String × Entry}
    (member : each ∈ entries) :
    Path.IsName each.1 :=
  tree.proper (at?.eq_1 _) each member

theorem at? (tree : IsTree entry) {front : List String} {below : Entry}
    (leads : entry.at? front = some below) :
    IsTree below where
  distinct := by
    intro way inner found
    refine @tree.distinct (front ++ way) inner ?_
    rw [at?_append, leads]
    exact found
  proper := by
    intro way inner found
    refine @tree.proper (front ++ way) inner ?_
    rw [at?_append, leads]
    exact found

theorem of_lookup (tree : IsTree (directory entries)) {below : Entry}
    (held : entries.lookup name = some below) :
    IsTree below := by
  refine @IsTree.at? _ tree [name] below ?_
  rw [at?_cons, held]
  rfl

theorem of_mem (tree : IsTree (directory entries)) {each : String × Entry}
    (member : each ∈ entries) :
    IsTree each.2 :=
  tree.of_lookup ((mem_iff_lookup tree.nodup).mp member)

/-- All names on a way through a tree are proper ones. -/
theorem forall_isName (tree : IsTree entry) {way : List String} {below : Entry}
    (leads : entry.at? way = some below) :
    ∀ name ∈ way, Path.IsName name := by
  induction way generalizing entry with
  | nil => exact List.forall_mem_nil _
  | cons name rest ih =>
      cases entry with
      | file _ => cases leads
      | directory entries =>
          rw [at?_cons, Option.bind_eq_some_iff] at leads
          rcases leads with ⟨next, held, leadsOn⟩
          have named := tree.isName ((mem_iff_lookup tree.nodup).mpr held)
          exact List.forall_mem_cons.mpr ⟨named, ih (tree.of_lookup held) leadsOn⟩

end IsTree

/-! ## Other orders -/

/-- The same tree, of which each directory may list its entries in another order. -/
inductive Reordered : Entry → Entry → Prop where
  | file (content : Except Refusal Text.Utf8.Octets) : Reordered (file content) (file content)
  | directory {left right : List (String × Entry)}
      (names : (left.map Prod.fst).Perm (right.map Prod.fst))
      (each : ∀ name one other, (name, one) ∈ left → (name, other) ∈ right → Reordered one other) :
      Reordered (directory left) (directory right)

namespace Reordered

variable {left right : Entry}

theorem refl (tree : IsTree left) : Reordered left left := by
  induction left using Entry.induction with
  | file content => exact .file content
  | directory entries ih =>
      refine .directory (.refl _) ?_
      intro name one other oneMember otherMember
      rw [mem_iff_lookup tree.nodup] at otherMember
      rw [(mem_iff_lookup tree.nodup).mp oneMember] at otherMember
      cases otherMember
      exact ih _ oneMember (tree.of_mem oneMember)

/-- A directory that lists the same entries in another order is the same directory. -/
theorem of_perm {lefts rights : List (String × Entry)} (tree : IsTree (.directory lefts))
    (order : lefts.Perm rights) :
    Reordered (.directory lefts) (.directory rights) := by
  refine .directory (order.map Prod.fst) ?_
  intro name one other oneMember otherMember
  cases Reordered.refl tree with
  | directory _ each => exact each name one other oneMember (order.mem_iff.mpr otherMember)

theorem isDirectory_eq (same : Reordered left right) : left.isDirectory = right.isDirectory := by
  cases same with
  | file _ => rfl
  | directory _ _ => rfl

/-- In whatever order the entries are listed, a way leads to the same tree. -/
theorem at? (same : Reordered left right) (tree : IsTree left) (way : List String) :
    Option.Rel Reordered (left.at? way) (right.at? way) := by
  induction way generalizing left right with
  | nil => exact .some same
  | cons name rest ih =>
      cases same with
      | file _ => exact .none
      | @directory lefts rights names each =>
          have distinct := names.nodup_iff.mp tree.nodup
          rw [at?_cons, at?_cons]
          cases held : lefts.lookup name with
          | some one =>
              have member := (mem_iff_lookup tree.nodup).mpr held
              rcases List.mem_map.mp (names.subset (List.mem_map_of_mem member)) with
                ⟨⟨name, other⟩, otherMember, rfl⟩
              rw [(mem_iff_lookup distinct).mp otherMember]
              exact ih (each _ one other member otherMember) (tree.of_lookup held)
          | none =>
              cases otherHeld : rights.lookup name with
              | none => exact .none
              | some other =>
                  have otherMember := (mem_iff_lookup distinct).mpr otherHeld
                  rcases List.mem_map.mp (names.symm.subset (List.mem_map_of_mem otherMember)) with
                    ⟨⟨name, one⟩, member, rfl⟩
                  rw [(mem_iff_lookup tree.nodup).mp member] at held
                  contradiction

theorem map_isDirectory_at? (same : Reordered left right) (tree : IsTree left)
    (way : List String) :
    (left.at? way).map Entry.isDirectory = (right.at? way).map Entry.isDirectory := by
  have below := same.at? tree way
  generalize left.at? way = one at below ⊢
  generalize right.at? way = other at below ⊢
  cases below with
  | some inside => exact congrArg some inside.isDirectory_eq
  | none => rfl

theorem isTree (same : Reordered left right) (tree : IsTree left) : IsTree right := by
  have listed : ∀ {way : List String} {inner : List (String × Entry)},
      right.at? way = some (.directory inner) →
        ∃ old, left.at? way = some (.directory old) ∧
          (old.map Prod.fst).Perm (inner.map Prod.fst) := by
    intro way inner found
    have below := same.at? tree way
    rw [found] at below
    cases oldFound : left.at? way with
    | none =>
        rw [oldFound] at below
        cases below
    | some old =>
        rw [oldFound] at below
        cases below with
        | some inside =>
            cases inside with
            | directory names _ => exact ⟨_, rfl, names⟩
  constructor
  · intro way inner found
    rcases listed found with ⟨old, oldFound, names⟩
    exact names.nodup_iff.mp (tree.distinct oldFound)
  · intro way inner found each member
    rcases listed found with ⟨old, oldFound, names⟩
    rcases List.mem_map.mp (names.symm.subset (List.mem_map_of_mem member)) with
      ⟨other, otherMember, same⟩
    rw [← same]
    exact tree.proper oldFound other otherMember

end Reordered

end Entry

namespace Store

/-- A store whose root is a proper tree. -/
def IsTidy (store : Store) : Prop :=
  Entry.IsTree (.directory store.root)

/-- The same store, of which each directory may list its entries in another order. -/
structure Reordered (left right : Store) : Prop where
  directory : left.directory = right.directory
  root : Entry.Reordered (.directory left.root) (.directory right.root)

theorem Reordered.sameShape {left right : Store} (same : left.Reordered right)
    (tidy : left.IsTidy) :
    left.SameShape right where
  directory := same.directory
  entries := same.root.map_isDirectory_at? tidy

theorem Reordered.isTidy {left right : Store} (same : left.Reordered right)
    (tidy : left.IsTidy) :
    right.IsTidy :=
  same.root.isTree tidy

end Store

end CasingLint
