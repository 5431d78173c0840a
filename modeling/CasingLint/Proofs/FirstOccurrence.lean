import Mathlib.Data.List.Nodup

/-!
# First occurrences

Where of several things under one name the first one counts, what is kept is a list of first
occurrences: one for each name, in the order in which the names first come.

The second part says what such a list is, whatever the items are and however it was made, and
that there is only one.
-/

namespace CasingLint

/-! ## One item for each name -/

theorem nodup_eraseDups (names : List String) :
    names.eraseDups.Nodup := by
  induction length : names.length using Nat.strongRecOn generalizing names with
  | ind count ih =>
      cases names with
      | nil => exact List.nodup_nil
      | cons name rest =>
          rw [List.eraseDups_cons, List.nodup_cons]
          constructor
          · rw [List.mem_eraseDups, List.mem_filter]
            simp
          · have shorter := List.length_filter_le (fun other => !other == name) rest
            exact ih _ (by rw [← length, List.length_cons]; omega) _ rfl

variable {item : Type}

section Names

variable (nameOf : item → String)

/-- The items with one more, unless there is one of its name. -/
def keepFirst (kept : List item) (offered : item) : List item :=
  if (kept.map nameOf).contains (nameOf offered) then kept else kept ++ [offered]

/-- The items with more of them, offered in turn. -/
def keepFirsts (kept offered : List item) : List item :=
  offered.foldl (keepFirst nameOf) kept

theorem keepFirsts_append (kept front back : List item) :
    keepFirsts nameOf kept (front ++ back) =
      keepFirsts nameOf (keepFirsts nameOf kept front) back :=
  List.foldl_append

/-- The names that are kept: the old ones, and the new ones in the order in which they come. -/
theorem map_keepFirsts (kept offered : List item) :
    (keepFirsts nameOf kept offered).map nameOf =
      kept.map nameOf ++
        ((offered.map nameOf).filter fun name => !(kept.map nameOf).contains name).eraseDups := by
  induction offered generalizing kept with
  | nil => exact (List.append_nil _).symm
  | cons first rest ih =>
      rw [keepFirsts, List.foldl_cons, ← keepFirsts, ih, keepFirst, List.map_cons, List.filter_cons]
      cases known : (kept.map nameOf).contains (nameOf first) with
      | true => rfl
      | false =>
          -- The filters for "not kept before" and "not the one just kept" are merged into one.
          simp only [Bool.false_eq_true, if_false, Bool.not_false, if_true, List.map_append,
            List.map_singleton, List.append_assoc, List.singleton_append, List.eraseDups_cons,
            List.filter_filter]
          congr 4
          funext name
          rw [List.contains_append, Bool.not_or, Bool.and_comm, List.contains_cons,
            List.contains_nil, Bool.or_false]

/-- Under every name the first item is kept. -/
theorem find?_keepFirsts (kept offered : List item) (name : String) :
    (keepFirsts nameOf kept offered).find? (nameOf · == name) =
      (kept ++ offered).find? (nameOf · == name) := by
  induction offered generalizing kept with
  | nil => rw [List.append_nil]; rfl
  | cons first rest ih =>
      rw [keepFirsts, List.foldl_cons, ← keepFirsts, ih, keepFirst]
      split
      · rename_i known
        rcases List.mem_map.mp (List.contains_iff_mem.mp known) with ⟨holder, among, sameName⟩
        rw [List.find?_append, List.find?_append, List.find?_cons]
        split
        · rename_i same
          have found : (kept.find? (nameOf · == name)).isSome = true :=
            List.find?_isSome.mpr ⟨holder, among, by rw [sameName]; exact same⟩
          rw [Option.or_of_isSome found, Option.or_of_isSome found]
        · rfl
      · rw [List.append_assoc, List.singleton_append]

/-- Nothing is kept of items whose names are known. -/
theorem keepFirsts_of_known {kept offered : List item}
    (known : ∀ each ∈ offered, nameOf each ∈ kept.map nameOf) :
    keepFirsts nameOf kept offered = kept := by
  induction offered with
  | nil => rfl
  | cons first rest ih =>
      rw [keepFirsts, List.foldl_cons, ← keepFirsts, keepFirst,
        if_pos (List.contains_iff_mem.mpr (known first List.mem_cons_self))]
      exact ih fun each among => known each (List.mem_cons_of_mem first among)

/-- Offering the same items again changes nothing. -/
theorem keepFirsts_twice (kept offered : List item) :
    keepFirsts nameOf (keepFirsts nameOf kept offered) offered =
      keepFirsts nameOf kept offered := by
  refine keepFirsts_of_known nameOf fun each among => ?_
  rw [map_keepFirsts, List.mem_append, List.mem_eraseDups, List.mem_filter]
  by_cases known : nameOf each ∈ kept.map nameOf
  · exact Or.inl known
  · refine Or.inr ⟨List.mem_map_of_mem among, ?_⟩
    rw [Bool.not_eq_true', ← Bool.not_eq_true, List.contains_iff_mem]
    exact known

end Names

/-! ## Lists of first occurrences -/

/-- An item comes at a place of a list before which another one has not come. -/
def ComesBefore (given : List item) (earlier later : item) : Prop :=
  ∃ front back, given = front ++ earlier :: back ∧ later ∉ front

/--
A list holds what another one holds, each item once, and in the order in which the items first
come there.
-/
structure AreFirstsOf (given kept : List item) : Prop where
  nodup : kept.Nodup
  mem_iff : ∀ each, each ∈ kept ↔ each ∈ given
  inOrder : kept.Pairwise (ComesBefore given)

section AreFirstsOf

variable {given kept : List item} {each earlier later : item}

theorem ComesBefore.append (before : ComesBefore given earlier later) (more : List item) :
    ComesBefore (given ++ more) earlier later := by
  rcases before with ⟨front, back, rfl, unseen⟩
  exact ⟨front, back ++ more, by rw [List.append_assoc, List.cons_append], unseen⟩

theorem ComesBefore.antisymm (before : ComesBefore given earlier later)
    (after : ComesBefore given later earlier) :
    earlier = later := by
  rcases before with ⟨front, back, split, unseen⟩
  rcases after with ⟨others, rest, rfl, unseenThere⟩
  -- Of the two fronts one begins the other, and what comes next belongs to neither.
  rcases List.append_eq_append_iff.mp split with ⟨between, rfl, next⟩ | ⟨between, rfl, next⟩
  · rcases List.cons_eq_append_iff.mp next with ⟨-, same⟩ | ⟨inner, rfl, -⟩
    · exact (List.cons.inj same).1
    · exact absurd (by simp) unseen
  · rcases List.cons_eq_append_iff.mp next with ⟨-, same⟩ | ⟨inner, rfl, -⟩
    · exact (List.cons.inj same).1.symm
    · exact absurd (by simp) unseenThere

namespace AreFirstsOf

theorem nil : AreFirstsOf ([] : List item) [] :=
  ⟨List.nodup_nil, fun _ => Iff.rfl, List.Pairwise.nil⟩

/-- What comes again is not kept. -/
theorem again (firsts : AreFirstsOf given kept) (known : each ∈ given) :
    AreFirstsOf (given ++ [each]) kept where
  nodup := firsts.nodup
  mem_iff := by
    intro other
    rw [firsts.mem_iff, List.mem_append, List.mem_singleton]
    exact ⟨Or.inl, fun among => among.elim id fun same => same ▸ known⟩
  inOrder := firsts.inOrder.imp fun before => before.append [each]

/-- What comes for the first time is kept behind all others. -/
theorem concat (firsts : AreFirstsOf given kept) (new : each ∉ given) :
    AreFirstsOf (given ++ [each]) (kept ++ [each]) where
  nodup := by
    rw [← List.concat_eq_append, List.nodup_concat]
    exact ⟨fun among => new ((firsts.mem_iff each).mp among), firsts.nodup⟩
  mem_iff := by
    intro other
    rw [List.mem_append, List.mem_append, firsts.mem_iff]
  inOrder := by
    rw [List.pairwise_append]
    refine ⟨firsts.inOrder.imp fun before => before.append [each],
      List.pairwise_singleton _ each, ?_⟩
    intro earlier among last isLast
    rw [List.mem_singleton.mp isLast]
    rcases List.append_of_mem ((firsts.mem_iff earlier).mp among) with ⟨front, back, rfl⟩
    refine ComesBefore.append ⟨front, back, rfl, ?_⟩ [each]
    intro seen
    exact new (List.mem_append_left _ seen)

/-- There is only one list of first occurrences. -/
theorem unique {others : List item} (firsts : AreFirstsOf given kept)
    (same : AreFirstsOf given others) :
    kept = others := by
  refine List.Perm.eq_of_pairwise ?_ firsts.inOrder same.inOrder ?_
  · intro earlier later _ _ before after
    exact before.antisymm after
  · rw [List.perm_ext_iff_of_nodup firsts.nodup same.nodup]
    intro each
    rw [firsts.mem_iff, same.mem_iff]

end AreFirstsOf

end AreFirstsOf

end CasingLint
