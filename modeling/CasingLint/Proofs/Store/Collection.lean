import CasingLint.Proofs.Store.Descent
import CasingLint.Proofs.Store.Trees
import CasingLint.Store.Sources
import Mathlib.Tactic.Choose

/-!
# The source files below a directory

The source files below a directory are collected on ways down through directories that are entered,
each once.  In each directory its own files come first, by name, and then those of its
subdirectories, by name.  This order and the files themselves determine the collection, so that it
does not matter in which order the directories list their entries.
-/

namespace CasingLint.Store

/-! ## Ways to source files -/

/-- A way from an entry down to a source file, through directories that are entered. -/
structure IsSourceWay (entry : Entry) (way : List String) : Prop where
  file : ∃ content, entry.at? way = some (.file content)
  source : ∃ name, way.getLast? = some name ∧ isSource name = true
  entered : ∀ directory ∈ way.dropLast, isEntered directory = true

namespace IsSourceWay

variable {entry : Entry} {entries : List (String × Entry)} {way : List String}

theorem ne_nil (isWay : IsSourceWay entry way) : way ≠ [] := by
  rintro rfl
  rcases isWay.source with ⟨name, none, -⟩
  contradiction

theorem not_file {content : Except Refusal Text.Utf8.Octets} : ¬ IsSourceWay (.file content) way := by
  intro isWay
  rcases isWay.file with ⟨other, found⟩
  cases way with
  | nil => exact isWay.ne_nil rfl
  | cons _ _ => cases found

theorem singleton_iff {name : String} :
    IsSourceWay (.directory entries) [name] ↔
      (∃ content, entries.lookup name = some (.file content)) ∧ isSource name = true := by
  constructor
  · rintro ⟨⟨content, found⟩, ⟨last, isLast, source⟩, -⟩
    cases isLast
    rw [Entry.at?_cons, Option.bind_eq_some_iff] at found
    rcases found with ⟨entry, held, same⟩
    cases same
    exact ⟨⟨content, held⟩, source⟩
  · rintro ⟨⟨content, held⟩, source⟩
    refine ⟨⟨content, ?_⟩, ⟨name, rfl, source⟩, List.forall_mem_nil _⟩
    rw [Entry.at?_cons, held]
    rfl

theorem cons_iff {name : String} (more : way ≠ []) :
    IsSourceWay (.directory entries) (name :: way) ↔
      isEntered name = true ∧
        ∃ below, entries.lookup name = some below ∧ IsSourceWay below way := by
  rcases List.exists_cons_of_ne_nil more with ⟨next, rest, rfl⟩
  constructor
  · rintro ⟨⟨content, found⟩, source, entered⟩
    rw [Entry.at?_cons, Option.bind_eq_some_iff] at found
    rcases found with ⟨below, held, leads⟩
    rw [List.dropLast_cons_cons, List.forall_mem_cons] at entered
    exact ⟨entered.1, below, held, ⟨content, leads⟩, source, entered.2⟩
  · rintro ⟨enteredHere, below, held, ⟨content, leads⟩, source, entered⟩
    refine ⟨⟨content, ?_⟩, source, ?_⟩
    · rw [Entry.at?_cons, held]
      exact leads
    · rw [List.dropLast_cons_cons, List.forall_mem_cons]
      exact ⟨enteredHere, entered⟩

end IsSourceWay

/-- Does one way come before another one, in the directory where they part? -/
inductive Precedes : List String → List String → Prop where
  | files {first second : String} (before : first < second) : Precedes [first] [second]
  | fileFirst {file directory : String} {below : List String} (more : below ≠ []) :
      Precedes [file] (directory :: below)
  | subdirectories {first second : String} {left right : List String} (before : first < second)
      (leftMore : left ≠ []) (rightMore : right ≠ []) :
      Precedes (first :: left) (second :: right)
  | within {directory : String} {left right : List String} (inside : Precedes left right) :
      Precedes (directory :: left) (directory :: right)

theorem Precedes.not_nil {left right : List String} (before : Precedes left right) :
    left ≠ [] ∧ right ≠ [] := by
  cases before <;> simp

theorem Precedes.asymm {left right : List String} (before : Precedes left right) :
    ¬ Precedes right left := by
  induction before with
  | files before =>
      intro after
      cases after with
      | files after => exact String.lt_irrefl _ (String.lt_trans before after)
      | fileFirst more => exact more rfl
      | subdirectories _ more _ => exact more rfl
      | within inside => exact inside.not_nil.1 rfl
  | fileFirst more =>
      intro after
      cases after with
      | files _ => exact more rfl
      | fileFirst _ => exact more rfl
      | subdirectories _ _ none => exact none rfl
      | within inside => exact inside.not_nil.2 rfl
  | subdirectories before leftMore rightMore =>
      intro after
      cases after with
      | files _ => exact leftMore rfl
      | fileFirst _ => exact rightMore rfl
      | subdirectories after _ _ => exact String.lt_irrefl _ (String.lt_trans before after)
      | within _ => exact String.lt_irrefl _ before
  | within inside ih =>
      intro after
      cases after with
      | files after => exact String.lt_irrefl _ after
      | fileFirst _ => exact inside.not_nil.2 rfl
      | subdirectories after _ _ => exact String.lt_irrefl _ after
      | within inside => exact ih inside

/-- Ways in order are all different, and the ways among them determine the list. -/
theorem nodup_of_pairwise_precedes {ways : List (List String)} (ordered : ways.Pairwise Precedes) :
    ways.Nodup := by
  refine ordered.imp ?_
  rintro left right before rfl
  exact before.asymm before

theorem eq_of_pairwise_precedes {left right : List (List String)}
    (leftOrdered : left.Pairwise Precedes) (rightOrdered : right.Pairwise Precedes)
    (same : ∀ way, way ∈ left ↔ way ∈ right) :
    left = right := by
  have perm : left.Perm right :=
    (List.perm_ext_iff_of_nodup (nodup_of_pairwise_precedes leftOrdered)
      (nodup_of_pairwise_precedes rightOrdered)).mpr same
  exact perm.eq_of_pairwise (fun _ _ _ _ before after => absurd after before.asymm)
    leftOrdered rightOrdered

/-! ## What is collected in a directory -/

section ByName

variable {α : Type} {named : List (String × α)}

theorem byName_perm (named : List (String × α)) : (byName named).Perm named :=
  List.mergeSort_perm named _

/-- Things with different names are put in the order of their names. -/
theorem pairwise_byName (distinct : (named.map Prod.fst).Nodup) :
    (byName named).Pairwise fun left right => left.1 < right.1 := by
  have sorted : (byName named).Pairwise fun left right => left.1 ≤ right.1 := by
    refine (List.pairwise_mergeSort ?_ ?_ named).imp fun before => of_decide_eq_true before
    · intro first second third before after
      exact decide_eq_true (String.le_trans (of_decide_eq_true before) (of_decide_eq_true after))
    · intro first second
      rcases String.le_total first.1 second.1 with before | after
      · simp [before]
      · simp [after]
  have apart : (byName named).Pairwise fun left right => left.1 ≠ right.1 :=
    List.pairwise_map.mp (((byName_perm named).map Prod.fst).nodup_iff.mpr distinct)
  refine (sorted.and apart).imp ?_
  rintro left right ⟨before, other⟩
  by_contra notBefore
  exact other (String.le_antisymm before (String.not_lt.mp notBefore))

theorem byName_map {β : Type} (change : String × α → β) :
    byName (named.map fun each => (each.1, change each)) =
      (byName named).map fun each => (each.1, change each) := by
  rw [byName, byName, List.map_mergeSort]
  exact fun _ _ _ _ => rfl

end ByName

section Directory

variable {entries : List (String × Entry)}

/-- The source files among the entries of a directory. -/
def ownFiles (entries : List (String × Entry)) : List (String × Entry) :=
  byName (entries.filter fun each => !each.2.isDirectory && isSource each.1)

/-- The directories among the entries of a directory that are entered. -/
def enteredDirectories (entries : List (String × Entry)) : List (String × Entry) :=
  byName (entries.filter fun each => each.2.isDirectory && isEntered each.1)

theorem inSubdirectories_eq (path : String) (entries : List (String × Entry)) :
    sourcesBelow.inSubdirectories path entries =
      (entries.filter fun each => each.2.isDirectory && isEntered each.1).map fun each =>
        (each.1, sourcesBelow (Path.join path each.1) each.2) := by
  induction entries with
  | nil => rfl
  | cons each rest ih =>
      rcases each with ⟨name, entry⟩
      cases entry with
      | file _ =>
          rw [sourcesBelow.inSubdirectories, ih]
          rfl
      | directory inner =>
          rw [sourcesBelow.inSubdirectories, ih, List.filter_cons]
          cases isEntered name with
          | true => simp [Entry.isDirectory]
          | false => simp [Entry.isDirectory]

/-- The files of a directory come before those of its subdirectories. -/
theorem sourcesBelow_directory (path : String) (entries : List (String × Entry)) :
    sourcesBelow path (.directory entries) =
      ((ownFiles entries).map fun each => Path.join path each.1) ++
        (enteredDirectories entries).flatMap fun each =>
          sourcesBelow (Path.join path each.1) each.2 := by
  rw [sourcesBelow, inSubdirectories_eq, byName_map, List.flatMap_map]
  rfl

theorem mem_ownFiles_iff (tree : Entry.IsTree (.directory entries)) {name : String} :
    (∃ entry, (name, entry) ∈ ownFiles entries) ↔ IsSourceWay (.directory entries) [name] := by
  rw [IsSourceWay.singleton_iff, ownFiles]
  simp only [(byName_perm _).mem_iff, List.mem_filter, Entry.mem_iff_lookup tree.nodup,
    Bool.and_eq_true, Bool.not_eq_true']
  constructor
  · rintro ⟨entry, held, isFile, source⟩
    cases entry with
    | file content => exact ⟨⟨content, held⟩, source⟩
    | directory _ => contradiction
  · rintro ⟨⟨content, held⟩, source⟩
    exact ⟨_, held, rfl, source⟩

theorem mem_enteredDirectories_iff (tree : Entry.IsTree (.directory entries)) {name : String}
    {way : List String} (more : way ≠ []) :
    (∃ entry, (name, entry) ∈ enteredDirectories entries ∧ IsSourceWay entry way) ↔
      IsSourceWay (.directory entries) (name :: way) := by
  rw [IsSourceWay.cons_iff more, enteredDirectories]
  simp only [(byName_perm _).mem_iff, List.mem_filter, Entry.mem_iff_lookup tree.nodup,
    Bool.and_eq_true]
  constructor
  · rintro ⟨entry, ⟨held, -, entered⟩, isWay⟩
    exact ⟨entered, entry, held, isWay⟩
  · rintro ⟨entered, entry, held, isWay⟩
    cases entry with
    | file _ => exact absurd isWay IsSourceWay.not_file
    | directory inner => exact ⟨_, ⟨held, rfl, entered⟩, isWay⟩

theorem nodup_filter (distinct : (entries.map Prod.fst).Nodup) (keep : String × Entry → Bool) :
    ((entries.filter keep).map Prod.fst).Nodup :=
  distinct.sublist (List.filter_sublist.map Prod.fst)

end Directory

/-- What is collected below an entry, as ways from there. -/
structure Collects (entry : Entry) (ways : List (List String)) : Prop where
  paths : ∀ path, sourcesBelow path entry = ways.map (·.foldl Path.join path)
  mem_iff : ∀ way, way ∈ ways ↔ IsSourceWay entry way
  ordered : ways.Pairwise Precedes

/-- What is collected below a directory from what is collected below each entry. -/
theorem collects_directory {entries : List (String × Entry)}
    (tree : Entry.IsTree (.directory entries)) {waysOf : String × Entry → List (List String)}
    (each : ∀ entry ∈ entries, Collects entry.2 (waysOf entry)) :
    Collects (.directory entries)
      (((ownFiles entries).map fun entry => [entry.1]) ++
        (enteredDirectories entries).flatMap fun entry =>
          (waysOf entry).map (entry.1 :: ·)) where
  paths path := by
    rw [sourcesBelow_directory, List.map_append, List.map_map, List.map_flatMap]
    congr 1
    refine List.flatMap_congr fun entry member => ?_
    have among := List.mem_of_mem_filter ((byName_perm _).mem_iff.mp member)
    rw [(each entry among).paths, List.map_map]
    rfl
  mem_iff way := by
    have waysBelow : ∀ entry ∈ enteredDirectories entries, ∀ below,
        below ∈ waysOf entry ↔ IsSourceWay entry.2 below := by
      intro entry member
      exact (each entry (List.mem_of_mem_filter ((byName_perm _).mem_iff.mp member))).mem_iff
    rw [List.mem_append, List.mem_map, List.mem_flatMap]
    constructor
    · rintro (⟨⟨name, entry⟩, member, rfl⟩ | ⟨⟨name, entry⟩, member, inside⟩)
      · exact (mem_ownFiles_iff tree).mp ⟨entry, member⟩
      · rcases List.mem_map.mp inside with ⟨below, among, rfl⟩
        have isWay := (waysBelow _ member below).mp among
        exact (mem_enteredDirectories_iff tree isWay.ne_nil).mp ⟨entry, member, isWay⟩
    · intro isWay
      rcases List.exists_cons_of_ne_nil isWay.ne_nil with ⟨name, below, rfl⟩
      cases below with
      | nil =>
          rcases (mem_ownFiles_iff tree).mpr isWay with ⟨entry, member⟩
          exact Or.inl ⟨_, member, rfl⟩
      | cons next rest =>
          rcases (mem_enteredDirectories_iff tree (List.cons_ne_nil next rest)).mpr isWay with
            ⟨entry, member, isBelow⟩
          refine Or.inr ⟨_, member, List.mem_map.mpr ⟨_, ?_, rfl⟩⟩
          exact (waysBelow _ member _).mpr isBelow
  ordered := by
    have ownOrder := pairwise_byName (nodup_filter tree.nodup
      fun entry => !entry.2.isDirectory && isSource entry.1)
    have directoryOrder := pairwise_byName (nodup_filter tree.nodup
      fun entry => entry.2.isDirectory && isEntered entry.1)
    have among : ∀ entry ∈ enteredDirectories entries, entry ∈ entries := by
      intro entry member
      exact List.mem_of_mem_filter ((byName_perm _).mem_iff.mp member)
    have more : ∀ entry ∈ enteredDirectories entries, ∀ below ∈ waysOf entry, below ≠ [] := by
      intro entry member below isBelow
      exact (((each entry (among entry member)).mem_iff below).mp isBelow).ne_nil
    rw [List.pairwise_append]
    refine ⟨?_, ?_, ?_⟩
    · exact List.pairwise_map.mpr (ownOrder.imp fun before => .files before)
    · rw [List.pairwise_flatMap]
      constructor
      · intro entry member
        exact List.pairwise_map.mpr
          ((each entry (among entry member)).ordered.imp fun inside => .within inside)
      · refine directoryOrder.imp_of_mem ?_
        intro left right leftMember rightMember before one oneMember other otherMember
        rcases List.mem_map.mp oneMember with ⟨leftBelow, isLeft, rfl⟩
        rcases List.mem_map.mp otherMember with ⟨rightBelow, isRight, rfl⟩
        exact .subdirectories before (more left leftMember _ isLeft)
          (more right rightMember _ isRight)
    · intro own ownMember other otherMember
      rcases List.mem_map.mp ownMember with ⟨file, -, rfl⟩
      rcases List.mem_flatMap.mp otherMember with ⟨entry, member, inside⟩
      rcases List.mem_map.mp inside with ⟨below, isBelow, rfl⟩
      exact .fileFirst (more entry member below isBelow)

theorem exists_collects {entry : Entry} (tree : entry.IsTree) :
    ∃ ways, Collects entry ways := by
  induction entry using Entry.induction with
  | file content =>
      refine ⟨[], fun _ => rfl, fun way => ?_, List.Pairwise.nil⟩
      exact iff_of_false List.not_mem_nil IsSourceWay.not_file
  | directory entries ih =>
      have each : ∀ entry ∈ entries, ∃ ways, Collects entry.2 ways :=
        fun entry member => ih entry member (tree.of_mem member)
      choose! waysOf collected using each
      exact ⟨_, collects_directory tree collected⟩

/-! ## What is collected in a store -/

theorem isSourceWay_congr {left right : Entry} {way : List String}
    (same : (left.at? way).map Entry.isDirectory = (right.at? way).map Entry.isDirectory) :
    IsSourceWay left way ↔ IsSourceWay right way := by
  have isFile : ∀ entry : Entry, (∃ content, entry.at? way = some (.file content)) ↔
      (entry.at? way).map Entry.isDirectory = some false := by
    intro entry
    cases entry.at? way with
    | none => simp
    | some found =>
        cases found with
        | file content => simp [Entry.isDirectory]
        | directory _ => simp [Entry.isDirectory]
  constructor
  · rintro ⟨file, source, entered⟩
    exact ⟨(isFile right).mpr (same ▸ (isFile left).mp file), source, entered⟩
  · rintro ⟨file, source, entered⟩
    exact ⟨(isFile left).mpr (same ▸ (isFile right).mp file), source, entered⟩

/-- Trees of the same shape have the same source files, in the same order. -/
theorem sourcesBelow_eq {left right : Entry} (leftTree : left.IsTree) (rightTree : right.IsTree)
    (same : ∀ way, (left.at? way).map Entry.isDirectory = (right.at? way).map Entry.isDirectory)
    (path : String) :
    sourcesBelow path left = sourcesBelow path right := by
  rcases exists_collects leftTree with ⟨leftWays, leftCollects⟩
  rcases exists_collects rightTree with ⟨rightWays, rightCollects⟩
  have ways : leftWays = rightWays := by
    refine eq_of_pairwise_precedes leftCollects.ordered rightCollects.ordered ?_
    intro way
    rw [leftCollects.mem_iff, rightCollects.mem_iff, isSourceWay_congr (same way)]
  rw [leftCollects.paths, rightCollects.paths, ways]

theorem IsTidy.isTree {store : Store} (tidy : store.IsTidy) {path : String} {entry : Entry}
    (found : store.find? path = some entry) :
    entry.IsTree := by
  rcases find?_eq_some_iff.mp found with ⟨names, -, held⟩
  exact Entry.IsTree.at? tidy held

theorem SameShape.sourcesAt {left right : Store} (shape : left.SameShape right)
    (leftTidy : left.IsTidy) (rightTidy : right.IsTidy) (path : String) :
    left.sourcesAt path = right.sourcesAt path := by
  rw [Store.sourcesAt, Store.sourcesAt, find?, find?, shape.way]
  cases right.way path with
  | error fault => rfl
  | ok names =>
      have below : ∀ way, ((left.atNames? names).bind (Entry.at? way)).map Entry.isDirectory =
          ((right.atNames? names).bind (Entry.at? way)).map Entry.isDirectory := by
        intro way
        rw [← atNames?_append, ← atNames?_append]
        exact shape.entries (names ++ way)
      have kinds := shape.entries names
      dsimp only
      cases one : left.atNames? names with
      | none =>
          rw [one, Option.map_none, eq_comm, Option.map_eq_none_iff] at kinds
          rw [kinds]
      | some leftEntry =>
          rw [one, Option.map_some, eq_comm, Option.map_eq_some_iff] at kinds
          rcases kinds with ⟨rightEntry, other, sameKind⟩
          rw [other]
          cases leftEntry with
          | file _ =>
              cases rightEntry with
              | file _ => rfl
              | directory _ => contradiction
          | directory leftInner =>
              cases rightEntry with
              | file _ => contradiction
              | directory rightInner =>
                  rw [one, other] at below
                  have same := sourcesBelow_eq (Entry.IsTree.at? leftTidy one)
                    (Entry.IsTree.at? rightTidy other) below path
                  dsimp only
                  rw [same]

/-- What is collected for a path that leads to a directory. -/
structure IsCollection (store : Store) (path : String) (entries : List (String × Entry))
    (files : List String) (ways : List (List String)) : Prop where
  paths : files = ways.map (·.foldl Path.join path)
  complete : ∀ way, way ∈ ways ↔ IsSourceWay (.directory entries) way
  ordered : ways.Pairwise Precedes
  once : files.Nodup
  leads : ∀ way ∈ ways,
    store.find? (way.foldl Path.join path) = Entry.at? way (.directory entries)

theorem sources_singleton (store : Store) (path : String) :
    (store.sources [path]).1 = (store.sourcesAt path).1 := by
  rw [sources, List.flatMap_singleton]

theorem exists_isCollection {store : Store} (tidy : store.IsTidy) {path : String}
    {entries : List (String × Entry)} (found : store.find? path = some (.directory entries)) :
    ∃ ways, IsCollection store path entries (store.sources [path]).1 ways := by
  have tree := tidy.isTree found
  have named : path ≠ "" := by
    rintro rfl
    cases found
  rcases exists_collects tree with ⟨ways, collects⟩
  rcases find?_eq_some_iff.mp found with ⟨front, leads, held⟩
  have files : (store.sources [path]).1 = ways.map (·.foldl Path.join path) := by
    rw [sources_singleton, sourcesAt, found]
    exact collects.paths path
  have areNames : ∀ way ∈ ways, ∀ name ∈ way, Path.IsName name := by
    intro way member
    rcases ((collects.mem_iff way).mp member).file with ⟨content, isFile⟩
    exact tree.forall_isName isFile
  -- A path that leads somewhere determines the names on its way: different ways, different paths.
  have wayOf : ∀ way ∈ ways, store.way (way.foldl Path.join path) = .ok (front ++ way) := by
    intro way member
    rcases ((collects.mem_iff way).mp member).file with ⟨content, isFile⟩
    have leadsOn : store.atNames? (front ++ way) = some (.file content) := by
      rw [atNames?_append, held]
      exact isFile
    exact way_foldl_join named (areNames way member) leads leadsOn
  refine ⟨ways, files, collects.mem_iff, collects.ordered, ?_, ?_⟩
  · rw [files]
    refine List.Nodup.map_on ?_ (nodup_of_pairwise_precedes collects.ordered)
    intro left leftMember right rightMember same
    have ends := wayOf left leftMember
    rw [same, wayOf right rightMember] at ends
    exact (List.append_cancel_left (Except.ok.inj ends)).symm
  · intro way member
    rw [find?_foldl_join named (areNames way member), found]
    rfl

/--
Below a directory exactly the source files are collected to which a way leads through directories
that are entered, each once and in order.  This does not depend on the order in which directories
list their entries.  For several paths all is put together, and a path that leads nowhere adds
nothing.
-/
theorem sources_areCollected {store : Store} (tidy : store.IsTidy) :
    (∀ {path : String} {entries : List (String × Entry)},
        store.find? path = some (.directory entries) →
          ∃ ways, IsCollection store path entries (store.sources [path]).1 ways) ∧
      (∀ {other : Store}, store.Reordered other →
        ∀ paths, other.sources paths = store.sources paths) ∧
      (∀ paths, (store.sources paths).1 = paths.flatMap fun path => (store.sources [path]).1) ∧
      ∀ {path : String}, store.find? path = none → (store.sources [path]).1 = [] := by
  refine ⟨fun found => exists_isCollection tidy found, ?_, ?_, ?_⟩
  · intro other same paths
    have shape := same.sameShape tidy
    simp only [sources, shape.sourcesAt tidy (same.isTidy tidy)]
  · intro paths
    simp only [sources_singleton]
    rfl
  · intro path nowhere
    rw [sources_singleton, sourcesAt, nowhere]

namespace Sample

/-- Files, a directory that is entered and one that is not. -/
def listing : List (String × Entry) :=
  [("lib", .directory [("c.cs", .file (.ok [])), ("notes.txt", .file (.ok []))]), ("b.cs", .file (.ok [])),
    (".git", .directory [("a.cs", .file (.ok []))]), ("a.cs", .file (.ok []))]

def project : Store where
  root := listing

def projectReversed : Store where
  root := listing.reverse

theorem isTidy : project.IsTidy := by
  refine Entry.isTree_directory (by decide) (by decide) ?_
  simp only [project, listing, List.forall_mem_cons]
  refine ⟨?_, Entry.isTree_file _, ?_, Entry.isTree_file _, List.forall_mem_nil _⟩
  · exact Entry.isTree_directory (by decide) (by decide) (by simp [Entry.isTree_file])
  · exact Entry.isTree_directory (by decide) (by decide) (by simp [Entry.isTree_file])

end Sample

/-- A file in a directory that is entered is collected, and one in a hidden directory is not. -/
theorem sources_areCollected_reversed :
    Sample.project.IsTidy ∧
      Sample.project.find? "/" = some (.directory Sample.listing) ∧
      (∃ ways, IsCollection Sample.project "/" Sample.listing
          (Sample.project.sources ["/"]).1 ways ∧
        ["lib", "c.cs"] ∈ ways ∧ [".git", "a.cs"] ∉ ways) ∧
      Sample.projectReversed.sources ["/"] = Sample.project.sources ["/"] ∧
      Sample.project.find? "/missing" = none ∧
      (Sample.project.sources ["/missing"]).1 = [] := by
  have found : Sample.project.find? "/" = some (.directory Sample.listing) := rfl
  have missing : Sample.project.find? "/missing" = none := rfl
  have reversed : Sample.project.Reordered Sample.projectReversed :=
    ⟨rfl, Entry.Reordered.of_perm Sample.isTidy (List.reverse_perm _).symm⟩
  rcases sources_areCollected Sample.isTidy with ⟨collects, independent, -, nothing⟩
  refine ⟨Sample.isTidy, found, ?_, independent reversed _, missing, nothing missing⟩
  rcases collects found with ⟨ways, collection⟩
  refine ⟨ways, collection, ?_, ?_⟩
  · exact (collection.complete _).mpr ⟨⟨_, rfl⟩, ⟨_, rfl, by decide⟩, by decide⟩
  · intro member
    have entered := ((collection.complete _).mp member).entered ".git" (by decide)
    contradiction

end CasingLint.Store
