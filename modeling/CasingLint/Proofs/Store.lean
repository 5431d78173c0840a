import CasingLint.Proofs.Outcome
import CasingLint.Proofs.Path
import CasingLint.Proofs.Text.Utf8
import CasingLint.Store
import Mathlib.Data.List.Nodup

/-!
# Files in a store

Reading fails only where the file system refuses it.  A path that leads somewhere leads
along its names.  Putting new octets into a file changes no other file and no directory,
so that all paths lead where they led before.
-/

namespace CasingLint

open CasingLint.Text Outcome

/-! ## Entries -/

namespace Entry

/-- What a file holds, or why it does not open; a directory has nothing of this kind. -/
def content? : Entry → Option (Except Refusal Utf8.Octets)
  | file content => some content
  | directory _ => none

section Named

variable {α : Type} {entries : List (String × α)} {name : String} {entry : α}

theorem lookup_cons_if (old : String × α) (sought : String) :
    (old :: entries).lookup sought =
      if sought = old.1 then some old.2 else entries.lookup sought := by
  rw [List.lookup_cons]
  by_cases found : sought = old.1
  · rw [beq_iff_eq.mpr found, if_pos found]
  · rw [beq_false_of_ne found, if_neg found]

theorem any_eq_isSome_lookup :
    entries.any (·.1 == name) = (entries.lookup name).isSome := by
  induction entries with
  | nil => rfl
  | cons old rest ih =>
      rw [List.any_cons, ih, lookup_cons_if]
      by_cases found : name = old.1
      · rw [if_pos found, found, beq_self_eq_true]
        rfl
      · rw [if_neg found, beq_false_of_ne (Ne.symm found), Bool.false_or]

theorem lookup_of_unique (member : (name, entry) ∈ entries)
    (unique : ∀ other, (name, other) ∈ entries → other = entry) :
    entries.lookup name = some entry := by
  cases found : entries.lookup name with
  | none => simpa using List.lookup_eq_none_iff.mp found _ member
  | some other =>
      rcases List.lookup_eq_some_iff.mp found with ⟨before, after, rfl, -⟩
      rw [unique other (List.mem_append_right _ List.mem_cons_self)]

theorem mem_iff_lookup (distinct : (entries.map Prod.fst).Nodup) :
    (name, entry) ∈ entries ↔ entries.lookup name = some entry := by
  constructor
  · intro member
    refine lookup_of_unique member ?_
    intro other otherMember
    exact congrArg Prod.snd (List.inj_on_of_nodup_map distinct otherMember member rfl)
  · intro known
    rcases List.lookup_eq_some_iff.mp known with ⟨before, after, rfl, -⟩
    exact List.mem_append_right _ List.mem_cons_self

theorem lookup_replaced (sought : String) :
    (entries.map fun old => if old.1 == name then (name, entry) else old).lookup sought =
      if sought = name then (entries.lookup sought).map fun _ => entry
      else entries.lookup sought := by
  induction entries with
  | nil => simp
  | cons old rest ih =>
      rw [List.map_cons, lookup_cons_if, lookup_cons_if, ih]
      by_cases replaced : old.1 = name
      · rw [if_pos (beq_iff_eq.mpr replaced), replaced]
        by_cases found : sought = name
        · simp [found]
        · simp [found]
      · rw [if_neg (mt eq_of_beq replaced)]
        by_cases found : sought = old.1
        · simp [found, replaced]
        · simp [found]

theorem lookup_setNamed (sought : String) :
    (setNamed entries name entry).lookup sought =
      if sought = name then some entry else entries.lookup sought := by
  rw [setNamed, any_eq_isSome_lookup]
  by_cases found : sought = name
  · rw [if_pos found, found]
    split
    · rename_i present
      rcases Option.isSome_iff_exists.mp present with ⟨old, held⟩
      rw [lookup_replaced, if_pos rfl, held, Option.map_some]
    · rename_i absent
      rw [List.lookup_append, Option.not_isSome_iff_eq_none.mp absent, List.lookup_cons_self,
        Option.none_or]
  · rw [if_neg found]
    split
    · rw [lookup_replaced, if_neg found]
    · rw [List.lookup_append, lookup_cons_if, if_neg found, List.lookup_nil, Option.or_none]

theorem names_setNamed :
    (setNamed entries name entry).map Prod.fst =
      if name ∈ entries.map Prod.fst then entries.map Prod.fst
      else entries.map Prod.fst ++ [name] := by
  have present : entries.any (·.1 == name) = true ↔ name ∈ entries.map Prod.fst := by
    rw [List.any_eq_true, List.mem_map]
    simp only [beq_iff_eq]
  rw [setNamed]
  by_cases known : name ∈ entries.map Prod.fst
  · rw [if_pos (present.mpr known), if_pos known, List.map_map]
    refine List.map_congr_left fun old _ => ?_
    rw [Function.comp_apply]
    split
    · rename_i same
      exact (eq_of_beq same).symm
    · rfl
  · rw [if_neg (mt present.mp known), if_neg known, List.map_append]
    rfl

theorem nodup_setNamed (distinct : (entries.map Prod.fst).Nodup) :
    ((setNamed entries name entry).map Prod.fst).Nodup := by
  rw [names_setNamed]
  split
  · exact distinct
  · rename_i new
    rw [List.nodup_append]
    refine ⟨distinct, List.nodup_singleton name, ?_⟩
    intro old among other same
    rw [List.mem_singleton.mp same]
    exact fun equal => new (equal ▸ among)

end Named

variable {entries : List (String × Entry)} {name : String} {entry : Entry}

theorem at?_cons (names : List String) :
    at? (name :: names) (directory entries) = (entries.lookup name).bind (at? names) := by
  rw [at?]
  cases entries.lookup name with
  | none => rfl
  | some entry => rfl

theorem at?_append (front names : List String) (entry : Entry) :
    at? (front ++ names) entry = (at? front entry).bind (at? names) := by
  induction front generalizing entry with
  | nil => rfl
  | cons name rest ih =>
      cases entry with
      | file _ => rfl
      | directory entries =>
          rw [List.cons_append, at?_cons, at?_cons, Option.bind_assoc]
          exact congrArg _ (funext ih)

/-- What changes below a name of a directory changes below the directory in the same way. -/
theorem content?_at?_setNamed {names : List String} {new : Except Refusal Utf8.Octets}
    (below : ∀ others, (at? others entry).map content? =
      if others = names then some (some new)
      else ((entries.lookup name).bind (at? others)).map content?)
    (others : List String) :
    (at? others (directory (setNamed entries name entry))).map content? =
      if others = name :: names then some (some new)
      else (at? others (directory entries)).map content? := by
  cases others with
  | nil => rfl
  | cons first rest =>
      rw [at?_cons, lookup_setNamed, at?_cons]
      by_cases found : first = name
      · subst found
        rw [if_pos rfl, Option.bind_some, below]
        simp
      · rw [if_neg found, if_neg (mt (congrArg List.head?) (by simpa using found))]

/-- New octets in a file are met at the end of its way, and all else is as it was. -/
theorem content?_at?_put {front : List String} {inner : List (String × Entry)}
    {new : Except Refusal Utf8.Octets}
    (within : at? front (directory entries) = some (directory inner))
    (free : ∀ below, inner.lookup name ≠ some (directory below)) (others : List String) :
    (at? others (directory (put (file new) (front ++ [name]) entries))).map content? =
      if others = front ++ [name] then some (some new)
      else (at? others (directory entries)).map content? := by
  induction front generalizing entries others with
  | nil =>
      cases within
      rw [List.nil_append, put]
      apply content?_at?_setNamed
      intro others
      cases others with
      | nil => rfl
      | cons first rest =>
          cases named : inner.lookup name with
          | none => simp [at?]
          | some old =>
              cases old with
              | file _ => simp [at?]
              | directory below => exact absurd named (free below)
  | cons next rest ih =>
      rw [at?_cons, Option.bind_eq_some_iff] at within
      rcases within with ⟨inside, named, withinInside⟩
      cases inside with
      | file content =>
          cases rest with
          | nil => cases withinInside
          | cons _ _ => cases withinInside
      | directory mid =>
          rw [List.cons_append, put, named]
          · refine content?_at?_setNamed ?_ others
            rw [named]
            exact ih withinInside
          · exact List.append_ne_nil_of_right_ne_nil rest (List.cons_ne_nil name [])

end Entry

namespace Store

/-! ## Faults -/

section Faults

variable (store : Store) (path : String)

theorem failsOnly_follow (names : List String) (part : String) :
    FailsOnly (fun fault => fault.isFileSystem = true) (store.follow path names part) := by
  rw [follow]
  split
  · exact failsOnly_ok _
  · exact failsOnly_error_iff.mpr rfl
  · exact failsOnly_error_iff.mpr rfl

theorem failsOnly_way :
    FailsOnly (fun fault => fault.isFileSystem = true) (store.way path) := by
  rw [way]
  split
  · exact failsOnly_error_iff.mpr rfl
  · apply failsOnly_map
    apply failsOnly_foldlM
    intro names part _
    exact failsOnly_follow store path names part

/-- Reading a file fails only if the file system refuses it. -/
theorem failsOnly_read :
    FailsOnly (fun fault => fault.isFileSystem = true) (store.read path) := by
  rw [read, failsOnly_bind_iff]
  refine ⟨failsOnly_way store path, ?_⟩
  intro names _
  split
  · exact failsOnly_ok _
  · exact failsOnly_error_iff.mpr rfl
  · exact failsOnly_error_iff.mpr rfl
  · exact failsOnly_error_iff.mpr rfl

end Faults

/-! ## Reading text -/

section Reading

variable {store : Store} {path : String} {content : Utf8.Octets}

theorem read_of_way {names : List String} (leads : store.way path = .ok names)
    (held : store.atNames? names = some (.file (.ok content))) :
    store.read path = .ok content := by
  rw [read, leads]
  simp only [bind, Except.bind, held]
  rfl

theorem readText_of_decode {text : List Char} (holds : store.read path = .ok content)
    (decoded : Utf8.decode content = .ok text) :
    store.readText path = .ok (String.ofList (unifyLineEnds text)) := by
  rw [readText, holds]
  simp only [bind, Except.bind, decoded]
  rfl

theorem exists_way_of_read (holds : store.read path = .ok content) :
    ∃ names,
      store.way path = .ok names ∧ store.atNames? names = some (.file (.ok content)) := by
  rw [read, bind_eq_ok_iff] at holds
  rcases holds with ⟨names, leads, ends⟩
  refine ⟨names, leads, ?_⟩
  split at ends
  · rename_i held
    cases ends
    exact held
  · contradiction
  · contradiction
  · contradiction

theorem exists_way_of_readText {text : String} (reads : store.readText path = .ok text) :
    ∃ names content,
      store.way path = .ok names ∧ store.atNames? names = some (.file (.ok content)) := by
  rw [readText, bind_eq_ok_iff] at reads
  rcases reads with ⟨content, holds, -⟩
  rcases exists_way_of_read holds with ⟨names, leads, held⟩
  exact ⟨names, content, leads, held⟩

/-- A path that leads the same way reads the same. -/
theorem readText_of_way {other text : String} {names : List String}
    (leads : store.way path = .ok names) (otherLeads : store.way other = .ok names)
    (reads : store.readText path = .ok text) :
    store.readText other = .ok text := by
  rw [readText, bind_eq_ok_iff] at reads
  rcases reads with ⟨content, holds, decoded⟩
  rcases exists_way_of_read holds with ⟨place, leadsTo, held⟩
  rw [leads] at leadsTo
  cases leadsTo
  rw [readText, read_of_way otherLeads held]
  exact decoded

end Reading

/-! ## Ways -/

theorem foldlM_follow {store : Store} {path : String} {parts start names : List String}
    (leads : parts.foldlM (store.follow path) start = .ok names) :
    names = parts.foldl Path.step start := by
  induction parts generalizing start with
  | nil => exact (Except.ok.inj leads).symm
  | cons part rest ih =>
      rw [List.foldlM_cons, bind_eq_ok_iff] at leads
      rcases leads with ⟨next, followed, leadsOn⟩
      rw [follow] at followed
      split at followed
      · cases followed
        exact ih leadsOn
      · contradiction
      · contradiction

/-- A path that leads somewhere leads along its names. -/
theorem eq_names_of_way {store : Store} {path : String} {names : List String}
    (leads : store.way path = .ok names) :
    names = Path.names store.directory path := by
  rw [way] at leads
  split at leads
  · contradiction
  · rcases map_eq_ok_iff.mp leads with ⟨reversed, followed, rfl⟩
    have working : (Path.names "/" store.directory).reverse =
        (Path.parts store.directory).foldl Path.step [] := by
      rw [Path.names, List.reverse_reverse]
      congr 1
      split
      · rfl
      · rfl
    rw [foldlM_follow followed, working, Path.names]

/-- Paths with the same absolute form lead the same way. -/
theorem way_eq_of_resolve_eq {store : Store} {left right : String}
    {leftNames rightNames : List String}
    (same : Path.resolve store.directory left = Path.resolve store.directory right)
    (leftLeads : store.way left = .ok leftNames) (rightLeads : store.way right = .ok rightNames) :
    leftNames = rightNames := by
  rw [eq_names_of_way leftLeads, eq_names_of_way rightLeads, Path.names_eq_of_resolve_eq same]

/-! ## Writing -/

/-- The same working directory, the same directories, and files in the same places. -/
structure SameShape (left right : Store) : Prop where
  directory : left.directory = right.directory
  entries : ∀ names,
    (left.atNames? names).map Entry.isDirectory = (right.atNames? names).map Entry.isDirectory

/-- What a path leads through does not depend on what the files hold. -/
theorem SameShape.follow {left right : Store} (shape : left.SameShape right) (path : String)
    (names : List String) (part : String) :
    left.follow path names part = right.follow path names part := by
  have same := shape.entries names.reverse
  rw [Store.follow, Store.follow]
  cases first : left.atNames? names.reverse with
  | none =>
      rw [first, Option.map_none, eq_comm, Option.map_eq_none_iff] at same
      rw [same]
  | some leftEntry =>
      rw [first, Option.map_some, eq_comm, Option.map_eq_some_iff] at same
      rcases same with ⟨rightEntry, second, sameKind⟩
      rw [second]
      cases leftEntry with
      | file _ =>
          cases rightEntry with
          | file _ => rfl
          | directory _ => contradiction
      | directory _ =>
          cases rightEntry with
          | file _ => contradiction
          | directory _ => rfl

theorem SameShape.way {left right : Store} (shape : left.SameShape right) (path : String) :
    left.way path = right.way path := by
  have follows : left.follow path = right.follow path := by
    funext names part
    exact shape.follow path names part
  rw [Store.way, Store.way, follows, shape.directory]

theorem map_content?_eq_iff {found? : Option Entry} {content : Except Refusal Utf8.Octets} :
    found?.map Entry.content? = some (some content) ↔ found? = some (.file content) := by
  rw [Option.map_eq_some_iff]
  constructor
  · rintro ⟨entry, rfl, holds⟩
    cases entry with
    | file held =>
        cases holds
        rfl
    | directory _ => contradiction
  · rintro rfl
    exact ⟨_, rfl, rfl⟩

/-- Can a file be put at the end of a way?  The way leads into a directory, but to none. -/
structure Admits (store : Store) (names : List String) : Prop where
  within : ∃ front name inner, names = front ++ [name] ∧
    store.atNames? front = some (.directory inner)
  free : ∀ below, store.atNames? names ≠ some (.directory below)

/-- Is there no file at the end of a way that does not open? -/
def Opens (store : Store) (names : List String) : Prop :=
  ∀ refusal, store.atNames? names ≠ some (.file (.error refusal))

theorem atNames?_append (store : Store) (front names : List String) :
    store.atNames? (front ++ names) = (store.atNames? front).bind (Entry.at? names) :=
  Entry.at?_append front names _

theorem atNames?_concat {store : Store} {front : List String} {inner : List (String × Entry)}
    (within : store.atNames? front = some (.directory inner)) (name : String) :
    store.atNames? (front ++ [name]) = inner.lookup name := by
  rw [atNames?_append, within, Option.bind_some, Entry.at?_cons]
  exact Option.bind_fun_some _

/-- Only a directory has anything below it. -/
theorem exists_directory_of_concat {store : Store} {front : List String} {name : String}
    {entry : Entry} (held : store.atNames? (front ++ [name]) = some entry) :
    ∃ inner, store.atNames? front = some (.directory inner) := by
  rw [atNames?_append, Option.bind_eq_some_iff] at held
  rcases held with ⟨above, found, below⟩
  cases above with
  | file _ => cases below
  | directory inner => exact ⟨inner, found⟩

theorem Admits.map_content?_putFile {store : Store} {names : List String}
    (admits : store.Admits names) (new : Utf8.Octets) (others : List String) :
    ((store.putFile names new).atNames? others).map Entry.content? =
      if others = names then some (some (.ok new))
      else (store.atNames? others).map Entry.content? := by
  rcases admits.within with ⟨front, name, inner, rfl, within⟩
  refine Entry.content?_at?_put within ?_ others
  intro below
  rw [← atNames?_concat within]
  exact admits.free below

section Putting

variable {store : Store} {names : List String} {old : Except Refusal Utf8.Octets}

theorem admits_of_held (held : store.atNames? names = some (.file old)) :
    store.Admits names := by
  constructor
  · rcases List.eq_nil_or_concat' names with rfl | ⟨front, name, rfl⟩
    · cases held
    · rcases exists_directory_of_concat held with ⟨inner, within⟩
      exact ⟨front, name, inner, rfl, within⟩
  · intro below
    rw [held]
    exact fun impossible => nomatch impossible

theorem map_content?_putFile (held : store.atNames? names = some (.file old))
    (new : Utf8.Octets) (others : List String) :
    ((store.putFile names new).atNames? others).map Entry.content? =
      if others = names then some (some (.ok new))
      else (store.atNames? others).map Entry.content? :=
  (admits_of_held held).map_content?_putFile new others

theorem sameShape_putFile (held : store.atNames? names = some (.file old))
    (new : Utf8.Octets) :
    (store.putFile names new).SameShape store where
  directory := rfl
  entries others := by
    have kind : Entry.isDirectory = Option.isNone ∘ Entry.content? := by
      funext entry
      cases entry with
      | file _ => rfl
      | directory _ => rfl
    rw [kind, ← Option.map_map, ← Option.map_map, map_content?_putFile held]
    split
    · rename_i same
      rw [same, held]
      rfl
    · rfl

theorem writeText_of_way {path : String} {old : Utf8.Octets} (text : String)
    (leads : store.way path = .ok names)
    (held : store.atNames? names = some (.file (.ok old))) :
    store.writeText path text = .ok (store.putFile names (Utf8.encode text.toList)) := by
  rw [writeText, leads]
  simp only [bind, Except.bind, held]
  rfl

end Putting

/-! ## Reading what was written -/

section Written

variable {store : Store} {path : String} {names : List String}

theorem exists_directory_drop {inner : List (String × Entry)}
    (within : store.atNames? names.reverse = some (.directory inner)) :
    ∃ above, store.atNames? (names.drop 1).reverse = some (.directory above) := by
  cases names with
  | nil => exact ⟨inner, within⟩
  | cons name rest =>
      rw [List.reverse_cons] at within
      exact exists_directory_of_concat within

/-- After each part of a path the way is inside a directory. -/
theorem exists_directory_of_follow {part : String} {next : List String}
    (followed : store.follow path names part = .ok next) :
    ∃ inner, store.atNames? (next.drop 1).reverse = some (.directory inner) := by
  rw [follow] at followed
  split at followed
  · rename_i inner within
    cases followed
    rw [Path.step]
    split
    · exact exists_directory_drop within
    · split
      · rcases exists_directory_drop within with ⟨above, found⟩
        exact exists_directory_drop found
      · exact ⟨inner, within⟩
  · contradiction
  · contradiction

theorem admits_of_way (leads : store.way path = .ok names)
    (free : ∀ below, store.atNames? names ≠ some (.directory below)) :
    store.Admits names := by
  refine ⟨?_, free⟩
  rw [way] at leads
  split at leads
  · contradiction
  · rcases map_eq_ok_iff.mp leads with ⟨reversed, followed, rfl⟩
    have inside : ∃ inner, store.atNames? (reversed.drop 1).reverse = some (.directory inner) := by
      cases parts : Path.parts path with
      | nil => exact absurd (List.map_eq_nil_iff.mp parts) (splitAt_ne_nil '/' path.toList)
      | cons part rest =>
          rw [parts, List.foldlM_cons, bind_eq_ok_iff] at followed
          rcases followed with ⟨next, first, others⟩
          exact foldlM_invariant (fun _ _ _ _ stepped => exists_directory_of_follow stepped)
            (exists_directory_of_follow first) others
    cases reversed with
    | nil => exact absurd rfl (free store.root)
    | cons name front =>
        rcases inside with ⟨inner, within⟩
        exact ⟨front.reverse, name, inner, List.reverse_cons, within⟩

theorem writeText_eq_ok_iff {text : String} {written : Store} :
    store.writeText path text = .ok written ↔
      ∃ names, store.way path = .ok names ∧ store.Admits names ∧ store.Opens names ∧
        written = store.putFile names (Utf8.encode text.toList) := by
  rw [writeText, bind_eq_ok_iff]
  constructor
  · rintro ⟨names, leads, ends⟩
    split at ends
    · contradiction
    · contradiction
    · rename_i free opens
      cases ends
      exact ⟨names, leads, admits_of_way leads free, opens, rfl⟩
  · rintro ⟨names, leads, admits, opens, rfl⟩
    refine ⟨names, leads, ?_⟩
    split
    · rename_i below held
      exact absurd held (admits.free below)
    · rename_i refusal held
      exact absurd held (opens refusal)
    · rfl

/-- A file that is put into a directory leaves all directories. -/
theorem Admits.exists_directory_putFile (admits : store.Admits names) (new : Utf8.Octets)
    {others : List String} {inner : List (String × Entry)}
    (held : store.atNames? others = some (.directory inner)) :
    ∃ after, (store.putFile names new).atNames? others = some (.directory after) := by
  have other : others ≠ names := by
    rintro rfl
    exact admits.free inner held
  have kept := admits.map_content?_putFile new others
  rw [if_neg other, held, Option.map_some, Option.map_eq_some_iff] at kept
  rcases kept with ⟨entry, found, isDirectory⟩
  cases entry with
  | file _ => contradiction
  | directory after => exact ⟨after, found⟩

/-- A path that leads somewhere still leads there after a file has been put somewhere. -/
theorem Admits.way_putFile (admits : store.Admits names) (new : Utf8.Octets)
    {place : List String} (leads : store.way path = .ok place) :
    (store.putFile names new).way path = .ok place := by
  have follows : ∀ start part next, store.follow path start part = .ok next →
      (store.putFile names new).follow path start part = .ok next := by
    intro start part next followed
    rw [follow] at followed ⊢
    split at followed
    · rename_i inner within
      rcases admits.exists_directory_putFile new within with ⟨after, found⟩
      rw [found]
      exact followed
    · contradiction
    · contradiction
  rw [way] at leads ⊢
  split at leads
  · contradiction
  · rename_i named
    rw [if_neg named]
    rcases map_eq_ok_iff.mp leads with ⟨reversed, followed, rfl⟩
    exact map_eq_ok_iff.mpr ⟨reversed, foldlM_of_steps follows followed, rfl⟩

/-- What was written at a path is read there again. -/
theorem read_of_writeText {text : String} {written : Store}
    (wrote : store.writeText path text = .ok written) :
    written.read path = .ok (Utf8.encode text.toList) := by
  rcases writeText_eq_ok_iff.mp wrote with ⟨names, leads, admits, -, rfl⟩
  have held := admits.map_content?_putFile (Utf8.encode text.toList) names
  rw [if_pos rfl, map_content?_eq_iff] at held
  exact read_of_way (admits.way_putFile _ leads) held

theorem pathExists_of_read {content : Utf8.Octets} (holds : store.read path = .ok content) :
    store.pathExists path = true := by
  rcases exists_way_of_read holds with ⟨names, leads, held⟩
  rw [pathExists, find?, leads]
  exact Option.isSome_iff_exists.mpr ⟨_, held⟩

end Written

end Store

end CasingLint
