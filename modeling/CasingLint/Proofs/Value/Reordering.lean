import CasingLint.Proofs.Outcome
import CasingLint.Proofs.Value.Mapping
import Mathlib.Data.Option.Basic

/-!
# Values up to the order of entries

Two values are the same up to order if one becomes the other when the entries of its mappings,
however deep inside, are listed in another order.  Looking up a key and filling in defaults give
the same up to order then.
-/

namespace CasingLint.Value

mutual

/-- The same value, in which mappings may list their entries in another order. -/
inductive Reordered : Value → Value → Prop where
  | same (value : Value) : Reordered value value
  | list {left right : List Value} (each : List.Forall₂ Reordered left right) :
      Reordered (list left) (list right)
  | map {left middle right : List (Value × Value)} (order : left.Perm middle)
      (each : List.Forall₂ ReorderedEntry middle right) :
      Reordered (map left) (map right)

/-- An entry with the same key and the same value up to order. -/
inductive ReorderedEntry : Value × Value → Value × Value → Prop where
  | under (key : Value) {one other : Value} (inside : Reordered one other) :
      ReorderedEntry (key, one) (key, other)

end

/-- The same entries in another order, each with the same value up to order. -/
def AreReordered (left right : List (Value × Value)) : Prop :=
  ∃ middle, left.Perm middle ∧ List.Forall₂ ReorderedEntry middle right

theorem areReordered_refl (entries : List (Value × Value)) : AreReordered entries entries :=
  ⟨entries, .refl entries, List.forall₂_same.mpr fun entry _ => .under entry.1 (.same entry.2)⟩

theorem Reordered.exists_entries {left : List (Value × Value)} {value : Value}
    (same : Reordered (.map left) value) :
    ∃ right, value = .map right ∧ AreReordered left right := by
  cases same with
  | same _ => exact ⟨left, rfl, areReordered_refl left⟩
  | map order each => exact ⟨_, rfl, _, order, each⟩

theorem hasDistinctKeys_of_perm {left right : List (Value × Value)}
    (order : (left.map Prod.fst).Perm (right.map Prod.fst)) (distinct : HasDistinctKeys left) :
    HasDistinctKeys right := by
  rw [hasDistinctKeys_iff] at distinct ⊢
  exact (order.pairwise_iff fun {one other} apart => sameKey_comm one other ▸ apart).mp distinct

theorem lookup_eq_of_perm {left right : List (Value × Value)} (order : left.Perm right)
    (distinct : HasDistinctKeys left) (key : Value) :
    lookup left key = lookup right key := by
  have distinctRight := hasDistinctKeys_of_perm (order.map Prod.fst) distinct
  ext value
  rw [lookup_eq_some_iff distinct, lookup_eq_some_iff distinctRight, order.mem_iff]

theorem lookup_of_forall₂ {left right : List (Value × Value)}
    (each : List.Forall₂ ReorderedEntry left right) (key : Value) :
    Option.Rel Reordered (lookup left key) (lookup right key) := by
  induction each with
  | nil => exact .none
  | cons first rest ih =>
      rcases first with ⟨own, inside⟩
      rw [lookup_cons, lookup_cons]
      split
      · exact .some inside
      · exact ih

namespace AreReordered

variable {left right : List (Value × Value)}

theorem reordered (same : AreReordered left right) : Reordered (.map left) (.map right) := by
  rcases same with ⟨middle, order, each⟩
  exact .map order each

theorem hasDistinctKeys (same : AreReordered left right) (distinct : HasDistinctKeys left) :
    HasDistinctKeys right := by
  rcases same with ⟨middle, order, each⟩
  have keys : middle.map Prod.fst = right.map Prod.fst := by
    rw [← List.forall₂_eq_eq_eq, List.forall₂_map_left_iff, List.forall₂_map_right_iff]
    exact each.imp fun _ _ ⟨_, _⟩ => rfl
  refine hasDistinctKeys_of_perm ?_ distinct
  rw [← keys]
  exact order.map Prod.fst

/-- Each entry comes from one with the same key. -/
theorem exists_of_mem (same : AreReordered left right) {key other : Value}
    (member : (key, other) ∈ right) :
    ∃ one, (key, one) ∈ left ∧ Reordered one other := by
  rcases same with ⟨middle, order, each⟩
  rcases Outcome.exists_of_forall₂ each.flip member with ⟨_, among, ⟨_, inside⟩⟩
  exact ⟨_, order.mem_iff.mpr among, inside⟩

/-- What is found under a key is the same up to order. -/
theorem lookup (same : AreReordered left right) (distinct : HasDistinctKeys left) (key : Value) :
    Option.Rel Reordered (Value.lookup left key) (Value.lookup right key) := by
  rcases same with ⟨middle, order, each⟩
  rw [lookup_eq_of_perm order distinct]
  exact lookup_of_forall₂ each key

theorem lookup_getD (same : AreReordered left right) (distinct : HasDistinctKeys left)
    (key standard : Value) :
    Reordered ((Value.lookup left key).getD standard) ((Value.lookup right key).getD standard) := by
  have found := same.lookup distinct key
  generalize Value.lookup left key = one at found ⊢
  generalize Value.lookup right key = other at found ⊢
  cases found with
  | some inside => exact inside
  | none => exact .same standard

theorem append {lefts rights : List (Value × Value)} (first : AreReordered left right)
    (second : AreReordered lefts rights) :
    AreReordered (left ++ lefts) (right ++ rights) := by
  rcases first with ⟨middle, order, each⟩
  rcases second with ⟨middles, orders, eachNext⟩
  exact ⟨middle ++ middles, order.append orders, List.rel_append each eachNext⟩

/-- A choice of entries by their keys. -/
theorem filter (same : AreReordered left right) (keep : Value → Bool) :
    AreReordered (left.filter fun entry => keep entry.1)
      (right.filter fun entry => keep entry.1) := by
  rcases same with ⟨middle, order, each⟩
  refine ⟨_, order.filter _, List.rel_filter ?_ each⟩
  rintro _ _ ⟨key, _⟩
  exact Iff.rfl

/-- A change of each entry. -/
theorem map (same : AreReordered left right) {change : Value × Value → Value × Value}
    (keeps : ∀ one ∈ left, ∀ other, ReorderedEntry one other →
      ReorderedEntry (change one) (change other)) :
    AreReordered (left.map change) (right.map change) := by
  rcases same with ⟨middle, order, each⟩
  refine ⟨_, order.map change, ?_⟩
  rw [List.forall₂_map_left_iff, List.forall₂_map_right_iff]
  have among : ∀ one ∈ middle, one ∈ left := fun one => order.mem_iff.mpr
  refine ((List.forall₂_and_left _ _).mpr ⟨among, each⟩).imp ?_
  rintro one other ⟨member, inside⟩
  exact keeps one member other inside

/-- What is given in another order is the same up to order with the defaults filled in. -/
theorem fill (same : AreReordered left right) (distinct : HasDistinctKeys left)
    (defaults : List (Value × Value)) :
    AreReordered (Value.fill defaults left) (Value.fill defaults right) := by
  refine append ⟨_, .refl _, ?_⟩ (same.filter fun key => !defaults.any fun old => old.1.sameKey key)
  rw [List.forall₂_map_left_iff, List.forall₂_map_right_iff]
  exact List.forall₂_same.mpr fun entry _ =>
    .under entry.1 (same.lookup_getD distinct entry.1 entry.2)

end AreReordered

end CasingLint.Value
