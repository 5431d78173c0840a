import CasingLint.Path
import CasingLint.Proofs.Text.Lines

/-!
# The absolute form of a path

A path is taken apart at its slashes, so the names on its way have none.  Put together
with slashes they give the absolute form of the path, which therefore determines them:
paths with the same absolute form lead the same way.
-/

namespace CasingLint

/-! ## Names -/

namespace Path

open CasingLint.Text

/-- A part of a path that goes down. -/
structure IsName (part : String) : Prop where
  notEmpty : part ≠ ""
  notDot : part ≠ "."
  notDots : part ≠ ".."
  oneLevel : '/' ∉ part.toList

instance (part : String) : Decidable (IsName part) :=
  decidable_of_iff (part ≠ "" ∧ part ≠ "." ∧ part ≠ ".." ∧ '/' ∉ part.toList)
    ⟨fun down => ⟨down.1, down.2.1, down.2.2.1, down.2.2.2⟩,
      fun down => ⟨down.notEmpty, down.notDot, down.notDots, down.oneLevel⟩⟩

theorem step_of_isName {part : String} (names : List String) (down : IsName part) :
    step names part = part :: names := by
  rw [step, if_neg (not_or.mpr ⟨down.notEmpty, down.notDot⟩), if_neg down.notDots]

theorem isName_of_mem_step {names : List String} {part name : String}
    (areNames : ∀ name ∈ names, IsName name) (oneLevel : '/' ∉ part.toList)
    (member : name ∈ step names part) :
    IsName name := by
  rw [step] at member
  split at member
  · exact areNames name member
  · rename_i stays
    rw [not_or] at stays
    split at member
    · exact areNames name (List.mem_of_mem_drop member)
    · rename_i notDots
      rcases List.mem_cons.mp member with rfl | earlier
      · exact ⟨stays.1, stays.2, notDots, oneLevel⟩
      · exact areNames name earlier

theorem isName_of_mem_foldl {parts start : List String}
    (areNames : ∀ name ∈ start, IsName name) (oneLevel : ∀ part ∈ parts, '/' ∉ part.toList) :
    ∀ name ∈ parts.foldl step start, IsName name := by
  induction parts generalizing start with
  | nil => exact areNames
  | cons part rest ih =>
      rcases List.forall_mem_cons.mp oneLevel with ⟨first, others⟩
      exact ih (fun _ member => isName_of_mem_step areNames first member) others

theorem oneLevel_of_mem_parts {path part : String} (member : part ∈ parts path) :
    '/' ∉ part.toList := by
  rcases List.mem_map.mp member with ⟨piece, among, rfl⟩
  rw [String.toList_ofList]
  exact not_mem_of_mem_splitAt among

theorem isName_of_mem_names {directory path name : String} (member : name ∈ names directory path) :
    IsName name := by
  rw [names, List.mem_reverse] at member
  refine isName_of_mem_foldl ?_ (fun _ => oneLevel_of_mem_parts) name member
  split
  · simp
  · exact isName_of_mem_foldl (by simp) fun _ => oneLevel_of_mem_parts

theorem foldl_step_of_isName {parts : List String} (start : List String)
    (areNames : ∀ part ∈ parts, IsName part) :
    parts.foldl step start = parts.reverse ++ start := by
  induction parts generalizing start with
  | nil => rfl
  | cons part rest ih =>
      rcases List.forall_mem_cons.mp areNames with ⟨first, others⟩
      rw [List.foldl_cons, step_of_isName start first, ih _ others, List.reverse_cons,
        List.append_assoc, List.singleton_append]

/-! ## Resolved paths -/

theorem toList_ofNames (names : List String) :
    (ofNames names).toList = '/' :: ['/'].intercalate (names.map String.toList) := by
  rw [ofNames, String.toList_append, String.toList_intercalate]
  rfl

theorem parts_ofNames {names : List String} (some : names ≠ [])
    (areNames : ∀ name ∈ names, IsName name) :
    parts (ofNames names) = "" :: names := by
  have free : ∀ piece ∈ names.map String.toList, '/' ∉ piece := by
    intro piece member
    rcases List.mem_map.mp member with ⟨name, among, rfl⟩
    exact (areNames name among).oneLevel
  have back : String.ofList ∘ String.toList = id := funext fun _ => String.ofList_toList
  rw [parts, toList_ofNames, splitAt, if_pos rfl,
    splitAt_intercalate free (mt List.map_eq_nil_iff.mp some), List.map_cons, List.map_map, back,
    List.map_id]

/-- The absolute form of a path determines the names on its way. -/
theorem names_ofNames {names : List String} (directory : String)
    (areNames : ∀ name ∈ names, IsName name) :
    Path.names directory (ofNames names) = names := by
  have absolute : isAbsolute (ofNames names) = true := by
    rw [isAbsolute, toList_ofNames]
    rfl
  rw [Path.names, absolute, if_pos rfl]
  cases names with
  | nil => rfl
  | cons first rest =>
      rw [parts_ofNames (List.cons_ne_nil first rest) areNames, List.foldl_cons]
      have stays : step [] "" = [] := rfl
      rw [stays, foldl_step_of_isName [] areNames, List.append_nil, List.reverse_reverse]

theorem names_eq_of_resolve_eq {directory left right : String}
    (same : resolve directory left = resolve directory right) :
    names directory left = names directory right := by
  rw [← names_ofNames directory fun _ => isName_of_mem_names, ← resolve, same, resolve,
    names_ofNames directory fun _ => isName_of_mem_names]

end Path

end CasingLint
