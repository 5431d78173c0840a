import CasingLint.Proofs.Path.Ascent
import CasingLint.Settings.Load
import Mathlib.Data.List.Infix
import Mathlib.Logic.Function.Iterate

/-!
# The nearest settings file

The search for a settings file looks into a directory and, as long as it finds nothing, goes on with
the path up to the last slash.  It is over when it has found a file, or when that path is the one it
has just looked at.  A path from the root down to the start has finitely many names, and each step
up takes one away, so the search ends.  What it has found then is in the nearest directory that has
anything, under the first name that has a file there.
-/

namespace CasingLint

/-- Is there a file at the end of a way from the root? -/
def Store.HasFile (store : Store) (names : List String) : Prop :=
  ∃ content, store.atNames? names = some (.file content)

namespace Settings

/-! ## Searching step by step -/

/-- A search that looks into a directory, or is over. -/
inductive Search where
  | looking (directory : String)
  | over (found : Option String)

namespace Search

/-- A search starts in the directory at a path, or in the one that holds the file at the path. -/
def start (store : Store) (path : String) : Search :=
  let absolute := Path.normalize store.directory path
  .looking (if store.isFile absolute then Path.parent absolute else absolute)

/-- Looks into a directory and goes on with the one above it, until there is none. -/
def step (store : Store) : Search → Search
  | .looking directory =>
    match inDirectory? store directory with
    | some found => .over (some found)
    | none =>
      if Path.parent directory = directory then .over none else .looking (Path.parent directory)
  | .over found => .over found

end Search

/-- The names of the directory in which a search starts. -/
def startNames (store : Store) (path : String) : List String :=
  match store.atNames? (Path.names store.directory path) with
  | some (.file _) => (Path.names store.directory path).dropLast
  | _ => Path.names store.directory path

/-! ## What a directory has -/

/-- Has a directory no settings file under any name? -/
def IsBare (store : Store) (directory : List String) : Prop :=
  ∀ name ∈ names, ¬ store.HasFile (directory ++ [name])

/-- The first of the names under which a directory has a file. -/
structure IsChosen (store : Store) (directory : List String) (name : String) : Prop where
  held : store.HasFile (directory ++ [name])
  first : ∃ before after, names = before ++ name :: after ∧
    ∀ earlier ∈ before, ¬ store.HasFile (directory ++ [earlier])

/-- A settings file at or above a place, with none in the directories between. -/
structure IsNearest (store : Store) (place directory : List String) (name : String) : Prop where
  above : directory <+: place
  chosen : IsChosen store directory name
  nearer : ∀ between, directory <+: between → between <+: place → between ≠ directory →
    IsBare store between

theorem isName_of_mem_settingsNames {name : String} (member : name ∈ names) :
    Path.IsName name := by
  have each : ∀ name ∈ names, Path.IsName name := by
    decide
  exact each name member

section Directories

variable {store : Store} {directory : List String}

theorem find?_root (store : Store) (path : String) :
    store.find? (Path.root path) = some (.directory store.root) := by
  rcases Path.root_cases path with isRoot | isRoot
  · rw [isRoot]
    rfl
  · rw [isRoot]
    rfl

theorem isFile_foldl_join_iff {place : List String} (path : String)
    (areNames : ∀ name ∈ place, Path.IsName name) :
    store.isFile (place.foldl Path.join (Path.root path)) = true ↔ store.HasFile place := by
  rw [Store.isFile, Store.find?_foldl_join (Path.root_ne_empty path) areNames, find?_root,
    Option.bind_some, Store.HasFile, Store.atNames?, Option.any_eq_true]
  constructor
  · rintro ⟨entry, found, isFile⟩
    cases entry with
    | file content => exact ⟨content, found⟩
    | directory _ => contradiction
  · rintro ⟨content, found⟩
    exact ⟨_, found, rfl⟩

theorem isFile_join_iff {name : String} (path : String)
    (areNames : ∀ name ∈ directory, Path.IsName name) (member : name ∈ names) :
    store.isFile (Path.join (directory.foldl Path.join (Path.root path)) name) = true ↔
      store.HasFile (directory ++ [name]) := by
  have down := isName_of_mem_settingsNames member
  have joined := List.foldl_concat Path.join (Path.root path) name directory
  rw [← joined, isFile_foldl_join_iff]
  exact List.forall_mem_append.mpr ⟨areNames, List.forall_mem_singleton.mpr down⟩

theorem inDirectory?_eq_none_iff (path : String)
    (areNames : ∀ name ∈ directory, Path.IsName name) :
    inDirectory? store (directory.foldl Path.join (Path.root path)) = none ↔
      IsBare store directory := by
  rw [inDirectory?, List.find?_eq_none, List.forall_mem_map]
  exact forall₂_congr fun name member => not_congr (isFile_join_iff path areNames member)

/-- A directory's settings file has the first name under which there is one. -/
theorem exists_isChosen (path : String) (areNames : ∀ name ∈ directory, Path.IsName name)
    {found : String}
    (finds : inDirectory? store (directory.foldl Path.join (Path.root path)) = some found) :
    ∃ name, IsChosen store directory name ∧
      found = (directory ++ [name]).foldl Path.join (Path.root path) := by
  rw [inDirectory?, List.find?_eq_some_iff_append] at finds
  rcases finds with ⟨isFile, before, after, split, earlier⟩
  rcases List.map_eq_append_iff.mp split with ⟨firsts, rest, isSplit, rfl, isRest⟩
  rcases List.map_eq_cons_iff.mp isRest with ⟨name, lasts, rfl, rfl, rfl⟩
  have members : ∀ other ∈ firsts ++ name :: lasts, other ∈ names := by
    rw [isSplit]
    exact fun _ => id
  refine ⟨name, ⟨?_, firsts, lasts, isSplit, ?_⟩, (List.foldl_concat _ _ _ _).symm⟩
  · exact (isFile_join_iff path areNames (members name (by simp))).mp isFile
  · intro other among
    rw [← isFile_join_iff path areNames (members other (by simp [among])), Bool.not_eq_true,
      ← Bool.not_eq_true']
    exact earlier _ (List.mem_map_of_mem among)

end Directories

/-! ## Going up -/

section Upward

variable (store : Store) (path : String) {reversed : List String}

/-- What the nearest of the directories from a place up to the root has, the last name first. -/
def lookUpward (reversed : List String) : Option String :=
  (upward reversed).findSome? fun directory =>
    inDirectory? store (directory.reverse.foldl Path.join (Path.root path))

theorem lookUpward_cons (name : String) (rest : List String) :
    lookUpward store path (name :: rest) =
      (inDirectory? store ((name :: rest).reverse.foldl Path.join (Path.root path))).or
        (lookUpward store path rest) := by
  rw [lookUpward, upward, List.findSome?_cons]
  cases inDirectory? store ((name :: rest).reverse.foldl Path.join (Path.root path)) with
  | none => rfl
  | some found => rfl

theorem lookUpward_nil :
    lookUpward store path [] = inDirectory? store (Path.root path) := by
  rw [lookUpward, upward, List.findSome?_singleton]
  rfl

variable {store path}

theorem forall_mem_reverse {holds : String → Prop} (each : ∀ name ∈ reversed, holds name) :
    ∀ name ∈ reversed.reverse, holds name :=
  fun name member => each name (List.mem_reverse.mp member)

theorem lookUpward_eq_none_iff (areNames : ∀ name ∈ reversed, Path.IsName name) :
    lookUpward store path reversed = none ↔
      ∀ directory, directory <+: reversed.reverse → IsBare store directory := by
  induction reversed with
  | nil =>
      rw [lookUpward_nil]
      refine (inDirectory?_eq_none_iff path (List.forall_mem_nil _)).trans ?_
      simp
  | cons name rest ih =>
      have further := ih (List.forall_mem_cons.mp areNames).2
      rw [lookUpward_cons, Option.or_eq_none_iff, further,
        inDirectory?_eq_none_iff path (forall_mem_reverse areNames), List.reverse_cons]
      simp only [List.prefix_concat_iff, or_imp, forall_and, forall_eq]

/-- What is found on the way up is the nearest settings file. -/
theorem exists_isNearest (areNames : ∀ name ∈ reversed, Path.IsName name) {found : String}
    (finds : lookUpward store path reversed = some found) :
    ∃ directory name, IsNearest store reversed.reverse directory name ∧
      found = (directory ++ [name]).foldl Path.join (Path.root path) := by
  induction reversed with
  | nil =>
      rw [lookUpward_nil] at finds
      rcases exists_isChosen path (List.forall_mem_nil _) finds with ⟨name, chosen, isPath⟩
      refine ⟨[], name, ⟨List.prefix_rfl, chosen, ?_⟩, isPath⟩
      intro between _ within other
      exact absurd (List.prefix_nil.mp within) other
  | cons last rest ih =>
      have othersNames := (List.forall_mem_cons.mp areNames).2
      rw [lookUpward_cons, Option.or_eq_some_iff] at finds
      rcases finds with here | ⟨nothing, further⟩
      · rcases exists_isChosen path (forall_mem_reverse areNames) here with ⟨name, chosen, isPath⟩
        refine ⟨_, name, ⟨List.prefix_rfl, chosen, ?_⟩, isPath⟩
        intro between below within other
        exact absurd (within.eq_of_length_le below.length_le) other
      · rcases ih othersNames further with ⟨directory, name, nearest, isPath⟩
        refine ⟨directory, name, ⟨?_, nearest.chosen, ?_⟩, isPath⟩
        · rw [List.reverse_cons]
          exact nearest.above.trans (List.prefix_append _ _)
        · intro between below within other
          rw [List.reverse_cons, List.prefix_concat_iff] at within
          rcases within with rfl | within
          · rw [← List.reverse_cons, ← inDirectory?_eq_none_iff path (forall_mem_reverse areNames)]
            exact nothing
          · exact nearest.nearer between below within other

namespace Search

theorem step_of_some {directory found : String}
    (finds : inDirectory? store directory = some found) :
    step store (.looking directory) = .over (some found) := by
  rw [step, finds]

theorem step_root (nothing : inDirectory? store (Path.root path) = none) :
    step store (.looking (Path.root path)) = .over none := by
  rw [step, nothing]
  exact if_pos (Path.parent_root path)

/-- A step that finds nothing goes one directory up. -/
theorem step_up {last : String} {rest : List String}
    (areNames : ∀ name ∈ last :: rest, Path.IsName name)
    (nothing :
      inDirectory? store ((last :: rest).reverse.foldl Path.join (Path.root path)) = none) :
    step store (.looking ((last :: rest).reverse.foldl Path.join (Path.root path))) =
      .looking (rest.reverse.foldl Path.join (Path.root path)) := by
  rcases List.forall_mem_cons.mp areNames with ⟨lastDown, restNames⟩
  have up := Path.parent_foldl_join_concat path (forall_mem_reverse restNames) lastDown
  rw [← List.reverse_cons] at up
  have other : rest.reverse.foldl Path.join (Path.root path) ≠
      (last :: rest).reverse.foldl Path.join (Path.root path) := by
    intro same
    have lengths := congrArg List.length (Path.foldl_join_root_injective path
      (forall_mem_reverse restNames) (forall_mem_reverse areNames) same)
    simp at lengths
  rw [step, nothing]
  dsimp only
  rw [up, if_neg other]

/-- A search ends after at most as many steps as there are directories up to the root. -/
theorem exists_over (areNames : ∀ name ∈ reversed, Path.IsName name) :
    ∃ count ≤ reversed.length + 1,
      (step store)^[count] (.looking (reversed.reverse.foldl Path.join (Path.root path))) =
        .over (lookUpward store path reversed) := by
  induction reversed with
  | nil =>
      refine ⟨1, Nat.le_refl 1, ?_⟩
      rw [Function.iterate_one, lookUpward_nil]
      cases here : inDirectory? store (Path.root path) with
      | none => exact step_root here
      | some found => exact step_of_some here
  | cons last rest ih =>
      rw [lookUpward_cons]
      cases here : inDirectory? store ((last :: rest).reverse.foldl Path.join (Path.root path)) with
      | some found =>
          refine ⟨1, Nat.le_add_left 1 _, ?_⟩
          rw [Function.iterate_one, step_of_some here, Option.some_or]
      | none =>
          rcases ih (List.forall_mem_cons.mp areNames).2 with ⟨count, within, ends⟩
          refine ⟨count + 1, Nat.succ_le_succ within, ?_⟩
          rw [Function.iterate_succ_apply, step_up areNames here, ends, Option.none_or]

end Search

end Upward

/-! ## Where a search starts -/

theorem isName_of_mem_startNames {store : Store} {path name : String}
    (member : name ∈ startNames store path) :
    Path.IsName name := by
  rw [startNames] at member
  split at member
  · exact Path.isName_of_mem_names (List.dropLast_subset _ member)
  · exact Path.isName_of_mem_names member

theorem startNames_eq (store : Store) (path : String) :
    startNames store path =
      if store.isFile (Path.normalize store.directory path) then
        (Path.names store.directory path).dropLast
      else Path.names store.directory path := by
  have isFile := @isFile_foldl_join_iff store _ path fun name
    (member : name ∈ Path.names store.directory path) => Path.isName_of_mem_names member
  rw [← Path.normalize_eq_foldl_join] at isFile
  rw [startNames]
  split
  · rename_i content held
    rw [if_pos (isFile.mpr ⟨content, held⟩)]
  · rename_i noFile
    rw [if_neg]
    intro found
    rcases isFile.mp found with ⟨content, held⟩
    exact noFile content held

theorem Search.start_eq (store : Store) (path : String) :
    Search.start store path =
      .looking ((startNames store path).foldl Path.join (Path.root path)) := by
  have areNames : ∀ name ∈ Path.names store.directory path, Path.IsName name :=
    fun _ => Path.isName_of_mem_names
  rw [Search.start, startNames_eq]
  split_ifs with isFile
  · rw [Path.normalize_eq_foldl_join]
    rcases List.eq_nil_or_concat' (Path.names store.directory path) with
      atRoot | ⟨front, last, split⟩
    · rw [atRoot]
      exact congrArg _ (Path.parent_root path)
    · rw [split] at areNames ⊢
      rcases List.forall_mem_append.mp areNames with ⟨frontNames, lastNames⟩
      rw [Path.parent_foldl_join_concat path frontNames (List.forall_mem_singleton.mp lastNames),
        List.dropLast_concat]
  · rw [Path.normalize_eq_foldl_join]

/-- Two slashes at the front of an absolute form are those of its root. -/
theorem lead_normalize (directory path : String) :
    (if (Path.normalize directory path).toList.take 2 = ['/', '/'] then "/" else "") ++ "/" =
      Path.root path := by
  rcases Path.normalize_cases directory path with ⟨isRoot, absolute⟩ | ⟨isRoot, absolute⟩
  · have single : (Path.normalize directory path).toList.take 2 ≠ ['/', '/'] := by
      rw [absolute, Path.resolve, Path.toList_ofNames]
      intro two
      cases names : Path.names directory path with
      | nil =>
          rw [names] at two
          contradiction
      | cons first rest =>
          have down := @Path.isName_of_mem_names directory path first (by rw [names]; simp)
          have some := mt String.toList_eq_nil_iff.mp down.notEmpty
          rcases List.exists_cons_of_ne_nil some with ⟨character, others, split⟩
          rw [names, List.map_cons, Path.intercalate_cons_eq_flatMap, split] at two
          have slash : character = '/' := by
            simpa using two
          exact down.oneLevel (by rw [split, slash]; exact List.mem_cons_self)
    rw [if_neg single, isRoot]
    rfl
  · have double : (Path.normalize directory path).toList.take 2 = ['/', '/'] := by
      rw [absolute, Path.resolve, String.toList_append, Path.toList_ofNames]
      rfl
    rw [if_pos double, isRoot]
    rfl

theorem lookUpward_eq {store : Store} {path lead : String} {reversed : List String}
    (isRoot : lead ++ "/" = Path.root path) (areNames : ∀ name ∈ reversed, Path.IsName name) :
    ((upward reversed).findSome? fun directory =>
        inDirectory? store (lead ++ Path.ofNames directory.reverse)) =
      lookUpward store path reversed := by
  have here := @Path.append_ofNames_eq_foldl_join lead _ (forall_mem_reverse areNames)
  rw [isRoot] at here
  induction reversed with
  | nil =>
      rw [lookUpward, upward, List.findSome?_singleton, List.findSome?_singleton, here]
  | cons name rest ih =>
      have restNames := (List.forall_mem_cons.mp areNames).2
      have above := @Path.append_ofNames_eq_foldl_join lead _ (forall_mem_reverse restNames)
      rw [isRoot] at above
      rw [lookUpward_cons, upward, List.findSome?_cons, here, ih restNames above]
      cases inDirectory? store ((name :: rest).reverse.foldl Path.join (Path.root path)) with
      | none => rfl
      | some found => rfl

theorem find?_eq_lookUpward (store : Store) (path : String) :
    find? store path = lookUpward store path (startNames store path).reverse := by
  have isNames : Path.names "/" (Path.normalize store.directory path) =
      Path.names store.directory path := by
    rw [Path.normalize_eq_foldl_join]
    exact Path.names_foldl_join_root path fun _ => Path.isName_of_mem_names
  have isStart : (if store.isFile (Path.normalize store.directory path) then
      (Path.names store.directory path).reverse.drop 1
      else (Path.names store.directory path).reverse) = (startNames store path).reverse := by
    rw [startNames_eq]
    split_ifs
    · rw [List.drop_one, List.tail_reverse]
    · rfl
  rw [find?, isNames, isStart]
  exact lookUpward_eq (lead_normalize store.directory path)
    fun _ member => isName_of_mem_startNames (List.mem_reverse.mp member)

/--
The search for a settings file ends, whatever the store and the path are.  What it finds is the
nearest settings file at or above the start, and it finds none exactly if there is none.
-/
theorem find?_isNearest (store : Store) (path : String) :
    (∃ count ≤ (startNames store path).length + 1,
        (Search.step store)^[count] (Search.start store path) = .over (find? store path)) ∧
      (∀ found, find? store path = some found →
        store.isFile found = true ∧
          ∃ directory name, IsNearest store (startNames store path) directory name ∧
            found = (directory ++ [name]).foldl Path.join (Path.root path)) ∧
      (find? store path = none ↔
        ∀ directory, directory <+: startNames store path → IsBare store directory) := by
  have areNames : ∀ name ∈ (startNames store path).reverse, Path.IsName name :=
    fun _ member => isName_of_mem_startNames (List.mem_reverse.mp member)
  rw [find?_eq_lookUpward]
  refine ⟨?_, ?_, ?_⟩
  · have ends := @Search.exists_over store path _ areNames
    rw [List.reverse_reverse, List.length_reverse, ← Search.start_eq] at ends
    exact ends
  · intro found finds
    rcases exists_isNearest areNames finds with ⟨directory, name, nearest, rfl⟩
    rw [List.reverse_reverse] at nearest
    refine ⟨?_, directory, name, nearest, rfl⟩
    refine (isFile_foldl_join_iff path ?_).mpr nearest.chosen.held
    rcases nearest.chosen.first with ⟨before, after, isSplit, -⟩
    refine List.forall_mem_append.mpr ⟨?_, List.forall_mem_singleton.mpr ?_⟩
    · exact fun other member => isName_of_mem_startNames (nearest.above.subset member)
    · exact isName_of_mem_settingsNames (by rw [isSplit]; simp)
  · have nothing := @lookUpward_eq_none_iff store path _ areNames
    rw [List.reverse_reverse] at nothing
    exact nothing

namespace Sample

/-- Two settings files above a directory in which only a directory has such a name. -/
def nested : Store where
  root := [("src", .directory
    [("namecheck.yml", .file (.ok [])), (".namecheck.yaml", .file (.ok [])),
      ("lib", .directory [(".namecheck.yml", .directory []), ("a.cs", .file (.ok []))])])]

end Sample

/-- From a file below two slashes the search goes up until there are files, and takes one of them. -/
theorem find?_isNearest_slashes :
    startNames Sample.nested "//src/lib/a.cs" = ["src", "lib"] ∧
      find? Sample.nested "//src/lib/a.cs" = some "//src/.namecheck.yaml" ∧
      Sample.nested.isFile "//src/.namecheck.yaml" = true ∧
      (∃ directory name, IsNearest Sample.nested ["src", "lib"] directory name ∧
        "//src/.namecheck.yaml" =
          (directory ++ [name]).foldl Path.join (Path.root "//src/lib/a.cs")) ∧
      find? Sample.nested "missing" = none ∧ IsBare Sample.nested ["missing"] := by
  have starts : startNames Sample.nested "//src/lib/a.cs" = ["src", "lib"] := by
    rfl
  have finds : find? Sample.nested "//src/lib/a.cs" = some "//src/.namecheck.yaml" := by
    decide +kernel
  have misses : find? Sample.nested "missing" = none := by
    decide +kernel
  rcases (find?_isNearest Sample.nested "//src/lib/a.cs").2.1 _ finds with ⟨isFile, nearest⟩
  rw [starts] at nearest
  have bare := (find?_isNearest Sample.nested "missing").2.2.mp misses
  exact ⟨starts, finds, isFile, nearest, misses, bare ["missing"] (by decide +kernel)⟩

end Settings

end CasingLint
