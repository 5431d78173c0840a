import CasingLint.Proofs.Store.Descent
import Mathlib.Data.List.TakeWhile

/-!
# Absolute paths and the directories above them

The absolute form of a path is a root, of one slash or of two, with names joined to it.  The path up
to its last slash is then the same without the last name, and the root is the only path of this
form that has nothing above it.
-/

namespace CasingLint.Path

open CasingLint.Text

/-- The root of the absolute form of a path, which has two slashes if the path has exactly two. -/
def root (path : String) : String :=
  match path.toList with
  | '/' :: '/' :: '/' :: _ => "/"
  | '/' :: '/' :: _ => "//"
  | _ => "/"

theorem normalize_cases (directory path : String) :
    root path = "/" ∧ normalize directory path = resolve directory path ∨
      root path = "//" ∧ normalize directory path = "/" ++ resolve directory path := by
  rw [normalize, root]
  grind

theorem root_cases (path : String) : root path = "/" ∨ root path = "//" :=
  (normalize_cases "" path).imp And.left And.left

theorem root_ne_empty (path : String) : root path ≠ "" := by
  rcases root_cases path with isRoot | isRoot
  · rw [isRoot]
    decide
  · rw [isRoot]
    decide

/-! ## Names joined to a root -/

theorem getLast?_ne_of_isName {name : String} (front : List Char) (down : IsName name) :
    (front ++ name.toList).getLast? ≠ some '/' := by
  have some : name.toList ≠ [] := mt String.toList_eq_nil_iff.mp down.notEmpty
  rw [List.getLast?_append_of_ne_nil front some]
  exact fun isLast => down.oneLevel (List.mem_of_getLast? isLast)

theorem getLast?_join_ne {path name : String} (named : path ≠ "") (down : IsName name) :
    (join path name).toList.getLast? ≠ some '/' := by
  rw [join_of_isName named down]
  split_ifs with isLast
  · exact getLast?_ne_of_isName _ down
  · rw [← List.singleton_append, ← List.append_assoc]
    exact getLast?_ne_of_isName _ down

/-- Names joined to a path without a slash at its end. -/
theorem toList_foldl_join {path : String} {names : List String} (named : path ≠ "")
    (closed : path.toList.getLast? ≠ some '/') (areNames : ∀ name ∈ names, IsName name) :
    (names.foldl join path).toList =
      path.toList ++ names.flatMap fun name => '/' :: name.toList := by
  induction names generalizing path with
  | nil => exact (List.append_nil _).symm
  | cons name rest ih =>
      rcases List.forall_mem_cons.mp areNames with ⟨down, others⟩
      rw [List.foldl_cons, ih (join_ne_empty named down) (getLast?_join_ne named down) others,
        join_of_isName named down, if_neg closed, List.flatMap_cons, List.append_assoc]

theorem intercalate_cons_eq_flatMap (separator : Char) (first : List Char)
    (others : List (List Char)) :
    [separator].intercalate (first :: others) = first ++ others.flatMap (separator :: ·) := by
  induction others generalizing first with
  | nil => simp
  | cons second more ih =>
      rw [List.intercalate_cons_cons, ih, List.append_assoc, List.flatMap_cons,
        List.singleton_append, List.cons_append]

theorem append_ofNames_eq_foldl_join {lead : String} {names : List String}
    (areNames : ∀ name ∈ names, IsName name) :
    lead ++ ofNames names = names.foldl join (lead ++ "/") := by
  have isOpen : (lead ++ "/").toList.getLast? = some '/' := by
    rw [String.toList_append]
    exact List.getLast?_concat
  have named : lead ++ "/" ≠ "" := by
    intro empty
    rw [empty] at isOpen
    contradiction
  rw [← String.toList_inj, String.toList_append, toList_ofNames]
  cases names with
  | nil =>
      rw [List.foldl_nil, String.toList_append]
      rfl
  | cons first rest =>
      rcases List.forall_mem_cons.mp areNames with ⟨down, others⟩
      rw [List.foldl_cons, toList_foldl_join (join_ne_empty named down)
        (getLast?_join_ne named down) others, join_of_isName named down, if_pos isOpen,
        List.map_cons, intercalate_cons_eq_flatMap, List.flatMap_map, String.toList_append]
      simp

theorem ofNames_eq_foldl_join {names : List String} (areNames : ∀ name ∈ names, IsName name) :
    ofNames names = names.foldl join "/" ∧ "/" ++ ofNames names = names.foldl join "//" := by
  have single := @append_ofNames_eq_foldl_join "" names areNames
  have double := @append_ofNames_eq_foldl_join "/" names areNames
  simp only [String.empty_append] at single
  exact ⟨single, double⟩

/-- The absolute form of a path has its names joined to its root. -/
theorem normalize_eq_foldl_join (directory path : String) :
    normalize directory path = (names directory path).foldl join (root path) := by
  rcases ofNames_eq_foldl_join fun name (member : name ∈ names directory path) =>
    isName_of_mem_names member with ⟨single, double⟩
  rcases normalize_cases directory path with ⟨isRoot, absolute⟩ | ⟨isRoot, absolute⟩
  · rw [absolute, isRoot]
    exact single
  · rw [absolute, isRoot]
    exact double

theorem names_append_ofNames (directory : String) (names : List String) :
    Path.names directory ("/" ++ ofNames names) = Path.names directory (ofNames names) := by
  -- The part between the two slashes is empty and stays at the root.
  have split : ("/" ++ ofNames names).toList = [] ++ '/' :: (ofNames names).toList := by
    rw [String.toList_append]
    rfl
  have absolute : isAbsolute ("/" ++ ofNames names) = true ∧
      isAbsolute (ofNames names) = true := by
    rw [isAbsolute, isAbsolute, split, toList_ofNames]
    exact ⟨rfl, rfl⟩
  rw [Path.names, Path.names, absolute.1, absolute.2, parts_of_toList split]
  rfl

theorem names_foldl_join_root {names : List String} (path : String)
    (areNames : ∀ name ∈ names, IsName name) :
    Path.names "/" (names.foldl join (root path)) = names := by
  rcases ofNames_eq_foldl_join areNames with ⟨single, double⟩
  rcases root_cases path with isRoot | isRoot
  · rw [isRoot, ← single]
    exact names_ofNames "/" areNames
  · rw [isRoot, ← double, names_append_ofNames]
    exact names_ofNames "/" areNames

/-! ## Directories above -/

theorem parent_root (path : String) : parent (root path) = root path := by
  rcases root_cases path with isRoot | isRoot
  · rw [isRoot]
    decide +kernel
  · rw [isRoot]
    decide +kernel

/-- The path up to its last slash, if nothing but a name stands behind it. -/
theorem parent_eq {path : String} {front : List Char} {name : String}
    (split : path.toList = front ++ '/' :: name.toList) (oneLevel : '/' ∉ name.toList) :
    parent path = String.ofList
      (if (front.reverse.dropWhile (· = '/')).isEmpty then front ++ ['/']
        else (front.reverse.dropWhile (· = '/')).reverse) := by
  have behind : path.toList.reverse.dropWhile (· ≠ '/') = '/' :: front.reverse := by
    have skipped : ∀ character ∈ name.toList.reverse, decide (character ≠ '/') = true := by
      intro character member
      exact decide_eq_true fun same => oneLevel (same ▸ List.mem_reverse.mp member)
    rw [split, List.reverse_append, List.reverse_cons, List.append_assoc,
      List.dropWhile_append_of_pos skipped]
    rfl
  rw [parent, behind, List.dropWhile_cons_of_pos (by decide)]
  split_ifs with bare
  · rw [List.reverse_cons, List.reverse_reverse]
  · rfl

theorem parent_join_of_closed {path name : String} (named : path ≠ "") (down : IsName name)
    (closed : path.toList.getLast? ≠ some '/') :
    parent (join path name) = path := by
  have split := join_of_isName named down
  rw [if_neg closed] at split
  rcases List.eq_nil_or_concat' path.toList with empty | ⟨front, last, isConcat⟩
  · exact absurd (String.toList_eq_nil_iff.mp empty) named
  · have notSlash : last ≠ '/' := by
      rintro rfl
      rw [isConcat, List.getLast?_concat] at closed
      exact closed rfl
    have kept : path.toList.reverse.dropWhile (· = '/') = path.toList.reverse := by
      rw [isConcat, List.reverse_append, List.reverse_singleton, List.singleton_append,
        List.dropWhile_cons_of_neg (by simpa using notSlash)]
    have some : path.toList.reverse.isEmpty = false := by
      rw [isConcat]
      simp
    rw [parent_eq split down.oneLevel, kept, some, if_neg Bool.false_ne_true,
      List.reverse_reverse, String.ofList_toList]

theorem parent_join_root {name : String} (path : String) (down : IsName name) :
    parent (join (root path) name) = root path := by
  have joined := join_of_isName (root_ne_empty path) down
  rcases root_cases path with isRoot | isRoot
  · rw [isRoot] at joined ⊢
    have split : (join "/" name).toList = [] ++ '/' :: name.toList := joined
    rw [parent_eq split down.oneLevel]
    rfl
  · rw [isRoot] at joined ⊢
    have split : (join "//" name).toList = ['/'] ++ '/' :: name.toList := joined
    rw [parent_eq split down.oneLevel]
    rfl

/-- What stands above an absolute path is the same path without its last name. -/
theorem parent_foldl_join_concat {names : List String} {name : String} (path : String)
    (areNames : ∀ name ∈ names, IsName name) (down : IsName name) :
    parent ((names ++ [name]).foldl join (root path)) = names.foldl join (root path) := by
  rw [List.foldl_concat]
  rcases List.eq_nil_or_concat' names with rfl | ⟨front, last, rfl⟩
  · exact parent_join_root path down
  · rcases List.forall_mem_append.mp areNames with ⟨frontNames, lastNames⟩
    have lastDown := List.forall_mem_singleton.mp lastNames
    have frontNamed := foldl_join_ne_empty (root_ne_empty path) frontNames
    rw [List.foldl_concat]
    exact parent_join_of_closed (join_ne_empty frontNamed lastDown) down
      (getLast?_join_ne frontNamed lastDown)

theorem foldl_join_root_injective {left right : List String} (path : String)
    (leftNames : ∀ name ∈ left, IsName name) (rightNames : ∀ name ∈ right, IsName name)
    (same : left.foldl join (root path) = right.foldl join (root path)) :
    left = right := by
  rw [← names_foldl_join_root path leftNames, same, names_foldl_join_root path rightNames]

end CasingLint.Path
