import CasingLint.Proofs.Store

/-!
# Paths that go down

A name that is joined to a path is one more part of it, whether the path ends with a slash or not.
So the longer path leads one step further down, if the shorter one leads to a directory, and
nowhere otherwise.  What a row of names leads to below a path is what it leads to in the store.
-/

namespace CasingLint

open CasingLint.Text Outcome

/-! ## Parts of joined paths -/

namespace Path

variable {path name : String}

theorem IsName.isAbsolute_eq_false (down : IsName name) : isAbsolute name = false := by
  rw [isAbsolute, Bool.eq_false_iff]
  intro starts
  exact down.oneLevel (List.mem_of_mem_head? (eq_of_beq starts))

theorem join_of_isName (named : path ≠ "") (down : IsName name) :
    (join path name).toList =
      if path.toList.getLast? = some '/' then path.toList ++ name.toList
      else path.toList ++ '/' :: name.toList := by
  have notEmpty : path.isEmpty = false := by
    rw [Bool.eq_false_iff]
    exact mt String.isEmpty_iff.mp named
  rw [join, down.isAbsolute_eq_false, if_neg Bool.false_ne_true, notEmpty, Bool.false_or]
  split_ifs with hasSlash isLast isLast
  · exact String.toList_append
  · exact absurd (eq_of_beq hasSlash) isLast
  · exact absurd (beq_iff_eq.mpr isLast) hasSlash
  · rw [String.toList_append, String.toList_append, List.append_assoc]
    rfl

theorem parts_of_toList {front back : List Char} (split : path.toList = front ++ '/' :: back) :
    parts path = (splitAt '/' front).map String.ofList ++ (splitAt '/' back).map String.ofList := by
  rw [parts, split, splitAt_eq_splitOn, List.splitOn_append_cons_self, ← splitAt_eq_splitOn,
    ← splitAt_eq_splitOn, List.map_append]

theorem splitAt_of_isName (down : IsName name) :
    (splitAt '/' name.toList).map String.ofList = [name] := by
  rw [splitAt_of_not_mem down.oneLevel, List.map_singleton, String.ofList_toList]

/-- A joined name is one more part, or takes the place of the empty part behind a last slash. -/
theorem parts_join (named : path ≠ "") (down : IsName name) :
    parts (join path name) = parts path ++ [name] ∨
      ∃ front, parts path = front ++ [""] ∧ parts (join path name) = front ++ [name] := by
  have joined := join_of_isName named down
  split_ifs at joined with isLast
  · rcases List.getLast?_eq_some_iff.mp isLast with ⟨front, split⟩
    rw [split, List.append_assoc, List.singleton_append] at joined
    refine Or.inr ⟨(splitAt '/' front).map String.ofList, parts_of_toList split, ?_⟩
    rw [parts_of_toList joined, splitAt_of_isName down]
  · refine Or.inl ?_
    rw [parts_of_toList joined, splitAt_of_isName down, parts]

theorem isAbsolute_join (named : path ≠ "") (down : IsName name) :
    isAbsolute (join path name) = isAbsolute path := by
  rcases List.exists_cons_of_ne_nil (mt String.toList_eq_nil_iff.mp named) with
    ⟨first, rest, split⟩
  rw [isAbsolute, isAbsolute, join_of_isName named down, split]
  split_ifs with isLast
  · rfl
  · rfl

theorem join_ne_empty (named : path ≠ "") (down : IsName name) : join path name ≠ "" := by
  intro empty
  have joined := join_of_isName named down
  rw [empty] at joined
  split_ifs at joined with isLast
  · exact named (String.toList_eq_nil_iff.mp (List.append_eq_nil_iff.mp joined.symm).1)
  · cases (List.append_eq_nil_iff.mp joined.symm).2

theorem foldl_join_ne_empty {names : List String} (named : path ≠ "")
    (areNames : ∀ name ∈ names, IsName name) :
    names.foldl join path ≠ "" := by
  induction names generalizing path with
  | nil => exact named
  | cons name rest ih =>
      rcases List.forall_mem_cons.mp areNames with ⟨first, others⟩
      exact ih (join_ne_empty named first) others

end Path

/-! ## Ways of joined paths -/

namespace Store

variable {store : Store} {path name : String}

theorem follow_eq_ok_iff {names next : List String} {part : String} :
    store.follow path names part = .ok next ↔
      (∃ inner, store.atNames? names.reverse = some (.directory inner)) ∧
        next = Path.step names part := by
  rw [follow]
  cases store.atNames? names.reverse with
  | none => simp
  | some entry =>
      cases entry with
      | file _ => simp
      | directory inner => simp [eq_comm]

/-- The parts of a path are followed in the same way, whatever the whole path is. -/
theorem foldlM_follow_congr {parts start names : List String} (other : String)
    (leads : parts.foldlM (store.follow path) start = .ok names) :
    parts.foldlM (store.follow other) start = .ok names := by
  refine foldlM_of_steps ?_ leads
  intro state part next followed
  rw [follow_eq_ok_iff] at followed ⊢
  exact followed

theorem foldlM_follow_concat {parts start names : List String} {part : String} :
    (parts ++ [part]).foldlM (store.follow path) start = .ok names ↔
      ∃ before, parts.foldlM (store.follow path) start = .ok before ∧
        (∃ inner, store.atNames? before.reverse = some (.directory inner)) ∧
        names = Path.step before part := by
  rw [List.foldlM_append, bind_eq_ok_iff]
  simp only [List.foldlM_cons, List.foldlM_nil, bind_pure, follow_eq_ok_iff]

/-- The parts of a path from where it starts. -/
theorem way_eq_ok_iff {names : List String} (named : path ≠ "") :
    store.way path = .ok names ↔
      (Path.parts path).foldlM (store.follow path)
        (if Path.isAbsolute path then [] else (Path.names "/" store.directory).reverse) =
          .ok names.reverse := by
  rw [way, if_neg (mt String.isEmpty_iff.mp named), map_eq_ok_iff]
  constructor
  · rintro ⟨reversed, followed, rfl⟩
    rw [List.reverse_reverse]
    exact followed
  · intro followed
    exact ⟨_, followed, List.reverse_reverse names⟩

/-- A joined name leads one step further down, from a directory. -/
theorem way_join_eq_ok_iff {names : List String} (named : path ≠ "") (down : Path.IsName name) :
    store.way (Path.join path name) = .ok names ↔
      ∃ front, store.way path = .ok front ∧
        (∃ inner, store.atNames? front = some (.directory inner)) ∧ names = front ++ [name] := by
  rw [way_eq_ok_iff (Path.join_ne_empty named down), Path.isAbsolute_join named down]
  simp only [way_eq_ok_iff named]
  generalize (if Path.isAbsolute path then [] else (Path.names "/" store.directory).reverse) = start
  rcases Path.parts_join named down with longer | ⟨parts, isOpen, closed⟩
  · rw [longer, foldlM_follow_concat]
    constructor
    · rintro ⟨before, followed, inside, ends⟩
      refine ⟨before.reverse, ?_, inside, ?_⟩
      · rw [List.reverse_reverse]
        exact foldlM_follow_congr path followed
      · rw [← List.reverse_inj, ends, Path.step_of_isName before down]
        simp
    · rintro ⟨front, followed, inside, rfl⟩
      refine ⟨front.reverse, foldlM_follow_congr _ followed, ?_, ?_⟩
      · rw [List.reverse_reverse]
        exact inside
      · rw [Path.step_of_isName _ down]
        simp
  · -- The empty part behind the slash stays where it is, so the name starts from there.
    rw [closed, foldlM_follow_concat, isOpen]
    simp only [foldlM_follow_concat]
    have stays : ∀ before : List String, Path.step before "" = before := fun _ => rfl
    constructor
    · rintro ⟨before, followed, inside, ends⟩
      refine ⟨before.reverse, ⟨before, foldlM_follow_congr path followed, inside, ?_⟩, inside, ?_⟩
      · rw [List.reverse_reverse, stays]
      · rw [← List.reverse_inj, ends, Path.step_of_isName before down]
        simp
    · rintro ⟨front, ⟨before, followed, inside, same⟩, -, rfl⟩
      refine ⟨before, foldlM_follow_congr _ followed, inside, ?_⟩
      rw [Path.step_of_isName before down, ← stays before, ← same]
      simp

theorem find?_eq_some_iff {entry : Entry} :
    store.find? path = some entry ↔
      ∃ names, store.way path = .ok names ∧ store.atNames? names = some entry := by
  rw [find?]
  cases store.way path with
  | error fault => simp
  | ok names => simp

/-- What a joined name leads to is what a directory holds under this name. -/
theorem find?_join (named : path ≠ "") (down : Path.IsName name) :
    store.find? (Path.join path name) = (store.find? path).bind (Entry.at? [name]) := by
  apply Option.ext
  intro entry
  rw [find?_eq_some_iff, Option.bind_eq_some_iff]
  simp only [way_join_eq_ok_iff named down, find?_eq_some_iff]
  constructor
  · rintro ⟨names, ⟨front, leads, ⟨inner, inside⟩, rfl⟩, held⟩
    rw [atNames?_append, inside] at held
    exact ⟨_, ⟨front, leads, inside⟩, held⟩
  · rintro ⟨above, ⟨front, leads, inside⟩, held⟩
    cases above with
    | file _ => cases held
    | directory inner =>
        refine ⟨front ++ [name], ⟨front, leads, ⟨inner, inside⟩, rfl⟩, ?_⟩
        rw [atNames?_append, inside]
        exact held

/-- What names below a path lead to is what they lead to from there. -/
theorem find?_foldl_join {names : List String} (named : path ≠ "")
    (areNames : ∀ name ∈ names, Path.IsName name) :
    store.find? (names.foldl Path.join path) = (store.find? path).bind (Entry.at? names) := by
  induction names generalizing path with
  | nil => exact (Option.bind_fun_some _).symm
  | cons name rest ih =>
      rcases List.forall_mem_cons.mp areNames with ⟨first, others⟩
      rw [List.foldl_cons, ih (Path.join_ne_empty named first) others, find?_join named first,
        Option.bind_assoc]
      congr 1
      funext entry
      exact (Entry.at?_append [name] rest entry).symm

/-- A path with names below it leads along these names, if they lead anywhere. -/
theorem way_foldl_join {front names : List String} {entry : Entry} (named : path ≠ "")
    (areNames : ∀ name ∈ names, Path.IsName name) (leads : store.way path = .ok front)
    (held : store.atNames? (front ++ names) = some entry) :
    store.way (names.foldl Path.join path) = .ok (front ++ names) := by
  induction names generalizing path front with
  | nil =>
      rw [List.append_nil]
      exact leads
  | cons name rest ih =>
      rcases List.forall_mem_cons.mp areNames with ⟨first, others⟩
      have inside : ∃ inner, store.atNames? front = some (.directory inner) := by
        rw [atNames?_append, Option.bind_eq_some_iff] at held
        rcases held with ⟨above, found, below⟩
        cases above with
        | file _ => cases below
        | directory inner => exact ⟨inner, found⟩
      have next := (way_join_eq_ok_iff named first).mpr ⟨front, leads, inside, rfl⟩
      rw [List.append_cons] at held ⊢
      exact ih (Path.join_ne_empty named first) others next held

end Store

end CasingLint
