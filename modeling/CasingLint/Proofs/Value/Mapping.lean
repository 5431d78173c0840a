import CasingLint.Value

/-!
# Entries of mappings

The entries of a mapping have different keys.  Setting a key keeps it that way and keeps
the old keys in front, so that an update of entries by others can be described as a whole:
first the old keys, each with its new value if it has one, and then what is new.
-/

namespace CasingLint.Value

/-! ## Keys -/

/-- A key is the same as no other key. -/
theorem eq_of_sameKey {left right : Value} (same : left.sameKey right = true) :
    left = right := by
  fun_cases sameKey left right
  all_goals simp_all [sameKey]

theorem sameKey_comm (left right : Value) :
    left.sameKey right = right.sameKey left := by
  rw [Bool.eq_iff_iff]
  constructor
  · intro same
    cases eq_of_sameKey same
    exact same
  · intro same
    cases eq_of_sameKey same
    exact same

theorem sameKey_text (content : String) :
    (text content).sameKey (text content) = true := by
  simp [sameKey]

/-- Does no key come again? -/
def HasDistinctKeys (entries : List (Value × Value)) : Prop :=
  entries.Pairwise fun earlier later => earlier.1.sameKey later.1 = false

instance (entries : List (Value × Value)) : Decidable (HasDistinctKeys entries) :=
  inferInstanceAs (Decidable (entries.Pairwise _))

/-- Different keys, of which the given ones come first. -/
structure IsOver (keys : List Value) (entries : List (Value × Value)) : Prop where
  front : keys <+: entries.map Prod.fst
  distinct : HasDistinctKeys entries

variable {entries given : List (Value × Value)} {keys : List Value} {key value : Value}

/-! ## Looking up -/

theorem lookup_cons (entry : Value × Value) :
    lookup (entry :: entries) key =
      if entry.1.sameKey key then some entry.2 else lookup entries key := by
  rw [lookup, lookup, List.find?_cons]
  cases entry.1.sameKey key with
  | true => rfl
  | false => rfl

theorem lookup_eq_none_iff :
    lookup entries key = none ↔ ∀ entry ∈ entries, entry.1.sameKey key = false := by
  rw [lookup, Option.map_eq_none_iff, List.find?_eq_none]
  simp only [Bool.not_eq_true]

theorem exists_of_lookup_eq_some (found : lookup entries key = some value) :
    (key, value) ∈ entries ∧ key.sameKey key = true := by
  rw [lookup, Option.map_eq_some_iff] at found
  rcases found with ⟨entry, first, rfl⟩
  have same : entry.1.sameKey key = true := by
    simpa using List.find?_some first
  cases eq_of_sameKey same
  exact ⟨List.mem_of_find?_eq_some first, same⟩

theorem mem_of_lookup_eq_some (found : lookup entries key = some value) :
    (key, value) ∈ entries :=
  (exists_of_lookup_eq_some found).1

theorem lookup_of_mem (distinct : HasDistinctKeys entries) (member : (key, value) ∈ entries)
    (reflexive : key.sameKey key = true) :
    lookup entries key = some value := by
  induction entries with
  | nil => contradiction
  | cons first rest ih =>
      rcases List.pairwise_cons.mp distinct with ⟨apart, distinctRest⟩
      rw [lookup_cons]
      rcases List.mem_cons.mp member with rfl | later
      · rw [if_pos reflexive]
      · rw [apart _ later, if_neg Bool.false_ne_true]
        exact ih distinctRest later

theorem lookup_eq_some_iff (distinct : HasDistinctKeys entries) :
    lookup entries key = some value ↔ (key, value) ∈ entries ∧ key.sameKey key = true := by
  constructor
  · exact exists_of_lookup_eq_some
  · rintro ⟨member, reflexive⟩
    exact lookup_of_mem distinct member reflexive

/-- Of an entry and the others only one has a key. -/
theorem lookup_cons_cases {entry : Value × Value}
    (apart : ∀ other ∈ entries, entry.1.sameKey other.1 = false) (key : Value) :
    (lookup entries key = none ∧ lookup (entry :: entries) key = lookup [entry] key) ∨
      (lookup [entry] key = none ∧ lookup (entry :: entries) key = lookup entries key) := by
  rw [lookup_cons, lookup_cons]
  by_cases same : entry.1.sameKey key = true
  · refine Or.inl ⟨?_, ?_⟩
    · rw [lookup_eq_none_iff]
      intro other member
      rw [← eq_of_sameKey same, sameKey_comm]
      exact apart other member
    · rw [if_pos same, if_pos same]
  · refine Or.inr ⟨?_, ?_⟩
    · rw [if_neg same]
      rfl
    · rw [if_neg same]

theorem lookup_append (front back : List (Value × Value)) :
    lookup (front ++ back) key = (lookup front key).or (lookup back key) := by
  rw [lookup, lookup, lookup, List.find?_append]
  cases front.find? fun entry => entry.1.sameKey key with
  | none => rfl
  | some entry => rfl

/-! ## Setting a key -/

theorem keys_insert :
    (insert entries key value).map Prod.fst =
      if entries.any fun entry => entry.1.sameKey key then entries.map Prod.fst
      else entries.map Prod.fst ++ [key] := by
  rw [insert]
  split
  · rw [List.map_map]
    refine List.map_congr_left fun entry _ => ?_
    rw [Function.comp_apply]
    split
    · rfl
    · rfl
  · rw [List.map_append]
    rfl

theorem mem_of_mem_insert {entry : Value × Value} (member : entry ∈ insert entries key value) :
    entry ∈ entries ∨ entry = (key, value) := by
  rw [insert] at member
  split at member
  · rcases List.mem_map.mp member with ⟨old, among, rfl⟩
    split
    · rename_i same
      rw [eq_of_sameKey same]
      exact Or.inr rfl
    · exact Or.inl among
  · rcases List.mem_append.mp member with old | new
    · exact Or.inl old
    · exact Or.inr (List.mem_singleton.mp new)

theorem lookup_replaced_of_not_same {sought : Value} (other : key.sameKey sought = false) :
    lookup (entries.map fun entry => if entry.1.sameKey key then (entry.1, value) else entry)
        sought =
      lookup entries sought := by
  induction entries with
  | nil => rfl
  | cons entry rest ih =>
      rw [List.map_cons, lookup_cons, lookup_cons, ih]
      split
      · rename_i same
        rw [eq_of_sameKey same, other]
        rfl
      · rfl

/-- Setting a key leaves the others alone. -/
theorem lookup_insert_of_not_same {sought : Value} (other : key.sameKey sought = false) :
    lookup (insert entries key value) sought = lookup entries sought := by
  rw [insert]
  split
  · exact lookup_replaced_of_not_same other
  · rw [lookup_append, lookup_cons, other]
    exact Option.or_none

theorem hasDistinctKeys_iff :
    HasDistinctKeys entries ↔
      (entries.map Prod.fst).Pairwise fun earlier later => earlier.sameKey later = false := by
  rw [List.pairwise_map]
  rfl

theorem IsOver.insert (isOver : IsOver keys entries) (key value : Value) :
    IsOver keys (insert entries key value) := by
  constructor
  · rw [keys_insert]
    split
    · exact isOver.front
    · exact isOver.front.trans (List.prefix_append _ _)
  · rw [hasDistinctKeys_iff, keys_insert]
    split
    · exact hasDistinctKeys_iff.mp isOver.distinct
    · rename_i new
      rw [Bool.not_eq_true, List.any_eq_false] at new
      rw [List.pairwise_append]
      refine ⟨hasDistinctKeys_iff.mp isOver.distinct, List.pairwise_singleton _ _, ?_⟩
      intro old among only isKey
      rcases List.mem_map.mp among with ⟨entry, member, rfl⟩
      rw [List.mem_singleton.mp isKey]
      exact Bool.not_eq_true _ ▸ new entry member

theorem IsOver.update (isOver : IsOver keys entries) (given : List (Value × Value)) :
    IsOver keys (update entries given) := by
  induction given generalizing entries with
  | nil => exact isOver
  | cons entry rest ih => exact ih (isOver.insert entry.1 entry.2)

/-- A key that is not among the entries is none of those that come first. -/
theorem IsOver.not_same (isOver : IsOver keys entries) (absent : lookup entries key = none)
    {known : Value} (member : known ∈ keys) :
    known.sameKey key = false := by
  rcases List.mem_map.mp (isOver.front.subset member) with ⟨entry, among, rfl⟩
  exact lookup_eq_none_iff.mp absent entry among

/-! ## Updates as a whole -/

/-- Given entries over default ones: first the defaults, each with the given value if there is one. -/
def fill (defaults given : List (Value × Value)) : List (Value × Value) :=
  (defaults.map fun entry => (entry.1, (lookup given entry.1).getD entry.2)) ++
    given.filter fun entry => !defaults.any fun old => old.1.sameKey entry.1

theorem update_cons (entry : Value × Value) :
    update entries (entry :: given) = update (insert entries entry.1 entry.2) given := rfl

/-- One more given entry is set before the others are filled in. -/
theorem fill_cons {entry : Value × Value}
    (apart : ∀ other ∈ given, entry.1.sameKey other.1 = false) :
    fill entries (entry :: given) = fill (insert entries entry.1 entry.2) given := by
  have absent : lookup given entry.1 = none := by
    rw [lookup_eq_none_iff]
    intro other member
    rw [sameKey_comm]
    exact apart other member
  rw [fill, fill, insert, List.filter_cons]
  by_cases known : (entries.any fun old => old.1.sameKey entry.1) = true
  · rw [if_pos known, known]
    simp only [Bool.not_true, Bool.false_eq_true, if_false, List.map_map, List.any_map]
    congr 1
    · refine List.map_congr_left fun old _ => ?_
      rw [Function.comp_apply, lookup_cons, sameKey_comm]
      split
      · rename_i same
        rw [eq_of_sameKey same, absent]
        rfl
      · rfl
    · refine List.filter_congr fun other _ => ?_
      congr 2
      funext old
      rw [Function.comp_apply]
      split
      · rfl
      · rfl
  · rw [if_neg known, Bool.eq_false_iff.mpr known]
    rw [Bool.not_eq_true, List.any_eq_false] at known
    simp only [Bool.not_false, if_true, List.map_append, List.any_append, List.map_cons,
      List.map_nil, absent, Option.getD_none, List.append_assoc, List.singleton_append]
    congr 1
    · refine List.map_congr_left fun old member => ?_
      rw [lookup_cons, sameKey_comm, if_neg (known old member)]
    · congr 1
      refine List.filter_congr fun other member => ?_
      simp [apart other member]

/-- Updating entries by entries with different keys fills these in. -/
theorem update_eq_fill (distinct : HasDistinctKeys given) :
    update entries given = fill entries given := by
  induction given generalizing entries with
  | nil => simp [update, fill, lookup]
  | cons entry rest ih =>
      rcases List.pairwise_cons.mp distinct with ⟨apart, distinctRest⟩
      rw [update_cons, ih distinctRest, fill_cons apart]

theorem lookup_map_filled (defaults : List (Value × Value)) :
    lookup (defaults.map fun entry => (entry.1, (lookup given entry.1).getD entry.2)) key =
      (lookup defaults key).map (lookup given key).getD := by
  induction defaults with
  | nil => rfl
  | cons entry rest ih =>
      rw [List.map_cons, lookup_cons, lookup_cons, ih]
      by_cases same : entry.1.sameKey key = true
      · rw [if_pos same, if_pos same, Option.map_some, eq_of_sameKey same]
      · rw [if_neg same, if_neg same]

/-- What is given for a key that has no default is found beside the defaults. -/
theorem lookup_filter_new {defaults : List (Value × Value)} (new : lookup defaults key = none) :
    lookup (given.filter fun entry => !defaults.any fun old => old.1.sameKey entry.1) key =
      lookup given key := by
  rw [lookup_eq_none_iff] at new
  induction given with
  | nil => rfl
  | cons entry rest ih =>
      rw [List.filter_cons, lookup_cons]
      split
      · rw [lookup_cons, ih]
      · rename_i known
        rw [Bool.not_eq_true, Bool.not_eq_false', List.any_eq_true] at known
        rcases known with ⟨old, member, same⟩
        rw [← eq_of_sameKey same, new old member, ih, if_neg Bool.false_ne_true]

/-- A key has its given value, or else its default. -/
theorem lookup_fill (defaults : List (Value × Value)) :
    lookup (fill defaults given) key = (lookup given key).or (lookup defaults key) := by
  rw [fill, lookup_append, lookup_map_filled]
  cases default? : lookup defaults key with
  | none =>
      rw [lookup_filter_new default?, Option.map_none, Option.none_or, Option.or_none]
  | some value =>
      cases lookup given key with
      | none => rfl
      | some chosen => rfl

/-- The entries are the given ones and, for keys that are not given, the default ones. -/
theorem mem_fill_iff {defaults : List (Value × Value)} (distinct : HasDistinctKeys given)
    (reflexive : ∀ entry ∈ defaults, entry.1.sameKey entry.1 = true) :
    (key, value) ∈ fill defaults given ↔
      (key, value) ∈ given ∨ (∀ other, (key, other) ∉ given) ∧ (key, value) ∈ defaults := by
  rw [fill, List.mem_append, List.mem_map, List.mem_filter]
  constructor
  · rintro (⟨⟨known, old⟩, member, same⟩ | ⟨member, -⟩)
    · cases found : lookup given known with
      | some chosen =>
          rw [found] at same
          cases same
          exact Or.inl (mem_of_lookup_eq_some found)
      | none =>
          rw [found] at same
          cases same
          refine Or.inr ⟨?_, member⟩
          intro other isGiven
          have apart := lookup_eq_none_iff.mp found (known, other) isGiven
          exact Bool.false_ne_true (apart.symm.trans (reflexive (known, old) member))
    · exact Or.inl member
  · rintro (member | ⟨absent, member⟩)
    · cases known : defaults.any fun old => old.1.sameKey key with
      | true =>
          rcases List.any_eq_true.mp known with ⟨⟨_, old⟩, among, same⟩
          cases eq_of_sameKey same
          refine Or.inl ⟨_, among, ?_⟩
          rw [lookup_of_mem distinct member same]
          rfl
      | false => exact Or.inr ⟨member, rfl⟩
    · refine Or.inl ⟨_, member, ?_⟩
      cases found : lookup given key with
      | some other => exact absurd (mem_of_lookup_eq_some found) (absent other)
      | none => rfl

theorem map_filled_eq {own : List (Value × Value)}
    (same : own.map Prod.fst = entries.map Prod.fst)
    (known : ∀ mine ∈ own, lookup given mine.1 = some mine.2) :
    (entries.map fun entry => (entry.1, (lookup given entry.1).getD entry.2)) = own := by
  induction own generalizing entries with
  | nil =>
      rw [List.map_nil, eq_comm, List.map_eq_nil_iff] at same
      rw [same]
      rfl
  | cons mine rest ih =>
      cases entries with
      | nil => contradiction
      | cons entry others =>
          rw [List.map_cons, List.map_cons, List.cons.injEq] at same
          rcases List.forall_mem_cons.mp known with ⟨knownHere, knownRest⟩
          rw [List.map_cons, ih same.2 knownRest, ← same.1, knownHere]
          rfl

/-- Entries with the default keys in front have nothing to be filled in. -/
theorem fill_of_isOver (isOver : IsOver (entries.map Prod.fst) given)
    (reflexive : ∀ entry ∈ entries, entry.1.sameKey entry.1 = true) :
    fill entries given = given := by
  rcases isOver.front with ⟨restKeys, split⟩
  rcases List.map_eq_append_iff.mp split.symm with ⟨own, rest, isSplit, sameKeys, -⟩
  have counterpart : ∀ mine ∈ own, ∃ entry ∈ entries, entry.1 = mine.1 := by
    intro mine member
    have among : mine.1 ∈ own.map Prod.fst := List.mem_map_of_mem member
    rw [sameKeys] at among
    exact List.mem_map.mp among
  have known : ∀ mine ∈ own, lookup given mine.1 = some mine.2 := by
    intro mine member
    rcases counterpart mine member with ⟨entry, among, same⟩
    apply lookup_of_mem isOver.distinct
    · rw [isSplit]
      exact List.mem_append_left _ member
    · rw [← same]
      exact reflexive entry among
  have distinct := isOver.distinct
  rw [isSplit, HasDistinctKeys, List.pairwise_append] at distinct
  have ownKnown : (own.filter fun entry => !entries.any fun old => old.1.sameKey entry.1) = [] := by
    rw [List.filter_eq_nil_iff]
    intro mine member
    rcases counterpart mine member with ⟨entry, among, same⟩
    rw [Bool.not_eq_true, Bool.not_eq_false', List.any_eq_true]
    exact ⟨entry, among, same ▸ reflexive entry among⟩
  have restNew : (rest.filter fun entry => !entries.any fun old => old.1.sameKey entry.1) =
      rest := by
    rw [List.filter_eq_self]
    intro other member
    rw [Bool.not_eq_true', List.any_eq_false]
    intro entry among
    have key : entry.1 ∈ entries.map Prod.fst := List.mem_map_of_mem among
    rw [← sameKeys] at key
    rcases List.mem_map.mp key with ⟨mine, isMine, same⟩
    rw [← same, distinct.2.2 mine isMine other member]
    exact Bool.false_ne_true
  have filtered : (given.filter fun entry => !entries.any fun old => old.1.sameKey entry.1) =
      rest := by
    rw [isSplit, List.filter_append, ownKnown, restNew, List.nil_append]
  rw [fill, map_filled_eq sameKeys known, filtered, ← isSplit]

end CasingLint.Value
