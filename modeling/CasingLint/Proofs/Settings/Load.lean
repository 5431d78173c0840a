import CasingLint.Proofs.Store
import CasingLint.Settings.Load

/-!
# How loading settings can end

Loading is meant to end with settings or with a fault that names the settings file.  The
merge of what the file holds keeps to that, with one exception: the names of unknown
fields are joined into a message without a look at their kind, so a key that is no text
ends it in another way.  Before the merge, two things escape the reader: octets that are no
text, and faults of a kind of its own.
-/

namespace CasingLint

open CasingLint.Text Outcome

/-- A fault that names the settings file at a path. -/
def Fault.Blames (path : String) (fault : Fault) : Prop :=
  ∃ reason, fault = .settings path reason

namespace Value

/-- Are all keys texts, if the value is a mapping? -/
def HasTextKeys : Value → Prop
  | map entries => ∀ entry ∈ entries, ∃ name, entry.1 = text name
  | _ => True

/-- A key that is the same as a text is a text. -/
theorem exists_text_of_sameKey {key : Value} {name : String}
    (same : key.sameKey (text name) = true) :
    ∃ content, key = text content := by
  cases key with
  | text content => exact ⟨content, rfl⟩
  | _ => simp [sameKey] at same

end Value

namespace Settings

section Merging

variable {path : String}

theorem failsOnly_sectionEntries (name : String) (value : Value) :
    FailsOnly (Fault.Blames path) (sectionEntries path name value) := by
  cases value with
  | null => exact failsOnly_ok _
  | map entries => exact failsOnly_ok entries
  | _ => exact failsOnly_error_iff.mpr ⟨_, rfl⟩

theorem failsOnly_mergeOptions (options : List (Value × Value)) (rule given : Value) :
    FailsOnly (Fault.Blames path) (mergeOptions path options rule given) := by
  rw [mergeOptions, failsOnly_bind_iff]
  refine ⟨failsOnly_sectionEntries _ given, ?_⟩
  intro entries _
  exact failsOnly_ok _

theorem failsOnly_mergeField (settings : Settings) (name : String) (value : Value) :
    FailsOnly (Fault.Blames path) (mergeField path settings name value) := by
  rw [mergeField]
  split
  · rw [failsOnly_bind_iff]
    refine ⟨failsOnly_sectionEntries name value, ?_⟩
    intro entries _
    exact failsOnly_ok _
  · split
    · rw [failsOnly_bind_iff]
      refine ⟨failsOnly_sectionEntries name value, ?_⟩
      intro entries _
      rw [failsOnly_bind_iff]
      constructor
      · apply failsOnly_foldlM
        intro options entry _
        exact failsOnly_mergeOptions options entry.1 entry.2
      · intro options _
        exact failsOnly_ok _
    · exact failsOnly_ok _

theorem exists_text_of_known {key : Value}
    (known : (!fieldNames.any fun name => key.sameKey (.text name)) = false) :
    ∃ content, key = .text content := by
  rw [Bool.not_eq_false', List.any_eq_true] at known
  rcases known with ⟨name, -, same⟩
  exact Value.exists_text_of_sameKey same

/-- The check of the field names ends as it is meant to exactly if all of them are texts. -/
theorem failsOnly_knownFields_iff (entries : List (Value × Value)) :
    FailsOnly (Fault.Blames path) (knownFields path entries) ↔
      ∀ entry ∈ entries, ∃ name, entry.1 = .text name := by
  simp only [knownFields]
  split
  · -- No key is unknown, and a key that is known is a text.
    rename_i none
    refine iff_of_true (failsOnly_ok _) ?_
    intro entry member
    apply exists_text_of_known
    rw [List.isEmpty_iff, List.filter_eq_nil_iff] at none
    exact Bool.eq_false_iff.mpr (none entry.1 (List.mem_map_of_mem member))
  · split
    · rename_i fewer
      rcases List.length_filterMap_lt_length_iff_exists.mp fewer with ⟨key, unknown, noText⟩
      rcases List.mem_map.mp (List.mem_of_mem_filter unknown) with ⟨entry, member, rfl⟩
      refine iff_of_false ?_ ?_
      · rw [failsOnly_error_iff]
        rintro ⟨reason, impossible⟩
        contradiction
      · intro texts
        rcases texts entry member with ⟨name, isText⟩
        rw [isText] at noText
        contradiction
    · rename_i asMany
      refine iff_of_true (failsOnly_error_iff.mpr ⟨_, rfl⟩) ?_
      intro entry member
      by_contra noText
      apply asMany
      refine List.length_filterMap_lt_length_iff_exists.mpr ⟨entry.1, ?_, ?_⟩
      · refine List.mem_filter.mpr ⟨List.mem_map_of_mem member, ?_⟩
        rw [← Bool.not_eq_false]
        exact mt exists_text_of_known noText
      · split
        · rename_i name isText
          exact absurd ⟨name, isText⟩ noText
        · rfl

/-- Merging ends as it is meant to exactly if the value is no mapping with other keys. -/
theorem failsOnly_merge_iff (loaded : Value) :
    FailsOnly (Fault.Blames path) (merge path loaded) ↔ loaded.HasTextKeys := by
  cases loaded with
  | map entries =>
      rw [merge]
      split
      · rename_i empty
        have none : entries = [] := by
          simpa [Value.isTruthy] using empty
        refine iff_of_true (failsOnly_ok _) ?_
        rw [none]
        exact List.forall_mem_nil _
      · dsimp only
        rw [failsOnly_bind_iff, failsOnly_knownFields_iff]
        refine and_iff_left ?_
        intro fields _
        apply failsOnly_foldlM
        intro settings field _
        exact failsOnly_mergeField settings field.1 field.2
  | _ =>
      refine iff_of_true ?_ trivial
      simp only [merge]
      split
      · exact failsOnly_ok _
      · exact failsOnly_error_iff.mpr ⟨_, rfl⟩

end Merging

end Settings

/-! ## Reading the file -/

namespace Settings

/-- Can loading end as it is meant to with these octets in the file at a path? -/
def IsUsable (reader : Reader) (path : String) (content : Utf8.Octets) : Prop :=
  match reader path content with
  | .error (.malformed _) => True
  | .error (.undecodable _) => False
  | .error (.foreign _ _) => False
  | .ok value => value.HasTextKeys

/-- To a reader that decodes the whole file first, octets that are no text are of no use. -/
theorem isUsable_ofText_iff {read : (path text : String) → Except ReadFault Value} {path : String}
    {content : Utf8.Octets} :
    IsUsable (.ofText read) path content ↔
      ∃ text, Utf8.decode content = .ok text ∧
        ((∃ message, read path (String.ofList (unifyLineEnds text)) = .error (.malformed message)) ∨
          ∃ value, read path (String.ofList (unifyLineEnds text)) = .ok value ∧
            value.HasTextKeys) := by
  rw [IsUsable, Reader.ofText]
  cases Utf8.decode content with
  | error fault => simp
  | ok text =>
      cases ends : read path (String.ofList (unifyLineEnds text)) with
      | ok value => simp [ends]
      | error fault =>
          cases fault with
          | malformed message => simp [ends]
          | undecodable fault => simp [ends]
          | foreign kind message => simp [ends]

/-- A text without carriage returns reaches a reader of texts as it was encoded. -/
theorem ofText_encode (read : (path text : String) → Except ReadFault Value) (path : String)
    {text : String} (free : '\r' ∉ text.toList) :
    Reader.ofText read path (Utf8.encode text.toList) = read path text := by
  rw [Reader.ofText, Utf8.decode_encode]
  dsimp only
  rw [unifyLineEnds_of_not_mem free, String.ofList_toList]

theorem failsOnly_readFile_merge_iff {store : Store} {reader : Reader} {path : String}
    {content : Utf8.Octets} (holds : store.read path = .ok content) :
    FailsOnly (Fault.Blames path) (readFile store reader path >>= merge path) ↔
      IsUsable reader path content := by
  rw [readFile, IsUsable, holds]
  dsimp only
  cases reader path content with
  | ok value => exact failsOnly_merge_iff value
  | error fault =>
      have escapes {other : Fault} (unnamed : ∀ reason, other ≠ .settings path reason) :
          ¬ FailsOnly (Fault.Blames path) (.error other : Except Fault Settings) := by
        intro only
        rcases only other rfl with ⟨reason, named⟩
        exact unnamed reason named
      cases fault with
      | malformed message =>
          exact iff_of_true (failsOnly_error_iff.mpr ⟨message, rfl⟩) trivial
      | undecodable fault =>
          exact iff_of_false (escapes fun _ named => nomatch named) id
      | foreign kind message =>
          exact iff_of_false (escapes fun _ named => nomatch named) id

theorem readFile_of_refused {store : Store} {reader : Reader} {path : String} {fault : Fault}
    (refused : store.read path = .error fault) :
    readFile store reader path = .error (.settings path fault.message) := by
  rw [readFile, refused]
  exact if_pos (Store.failsOnly_read store path fault refused)

/-- What the reader makes of a file is merged over the default settings. -/
theorem load_eq_merge {store : Store} {reader : Reader} {path : String} {content : Utf8.Octets}
    {value : Value} (required : Bool) (holds : store.read path = .ok content)
    (reading : reader path content = .ok value) :
    load store reader path required =
      (merge path value).map fun settings =>
        (settings, [⟨.info, .settings, "Loaded config from " ++ path⟩]) := by
  have named : path.isEmpty = false := by
    rcases Store.exists_way_of_read holds with ⟨names, leads, -⟩
    rw [Store.way] at leads
    split at leads
    · contradiction
    · rename_i named
      exact Bool.eq_false_iff.mpr named
  have file : readFile store reader path = .ok value := by
    rw [readFile, holds]
    dsimp only
    rw [reading]
  rw [load, named, Store.pathExists_of_read holds, file]
  simp only [Bool.not_true, Bool.false_eq_true, if_false, bind, Except.bind]
  cases merge path value with
  | error fault => rfl
  | ok settings => rfl

theorem failsOnly_load_iff_of_present {store : Store} {reader : Reader} {path : String}
    (required : Bool) (named : path.isEmpty = false) (present : store.pathExists path = true) :
    FailsOnly (Fault.Blames path) (load store reader path required) ↔
      ∀ content, store.read path = .ok content → IsUsable reader path content := by
  have steps :
      load store reader path required =
        readFile store reader path >>= merge path >>= fun settings =>
          .ok (settings, [⟨.info, .settings, "Loaded config from " ++ path⟩]) := by
    rw [load, named, present, bind_assoc]
    rfl
  rw [steps, failsOnly_bind_iff]
  refine (and_iff_left fun _ _ => failsOnly_ok _).trans ?_
  cases holds : store.read path with
  | error fault =>
      rw [readFile_of_refused holds]
      refine iff_of_true (failsOnly_error_iff.mpr ⟨fault.message, rfl⟩) ?_
      intro content impossible
      contradiction
  | ok content =>
      rw [failsOnly_readFile_merge_iff holds]
      constructor
      · intro usable other same
        cases same
        exact usable
      · intro usable
        exact usable content rfl

/--
Loading ends with settings, or with a fault that names the settings file, exactly if there
is no file at the path or the file is usable: the reader makes a value of its octets or
finds them malformed, and a mapping at the top has texts as its keys.
-/
theorem load_settles_iff (store : Store) (reader : Reader) (path : String) (required : Bool) :
    ((∃ settings rows, load store reader path required = .ok (settings, rows)) ∨
        ∃ reason, load store reader path required = .error (.settings path reason)) ↔
      path.isEmpty = true ∨ store.pathExists path = false ∨
        ∀ content, store.read path = .ok content → IsUsable reader path content := by
  have outcome :
      ((∃ settings rows, load store reader path required = .ok (settings, rows)) ∨
          ∃ reason, load store reader path required = .error (.settings path reason)) ↔
        FailsOnly (Fault.Blames path) (load store reader path required) := by
    rw [failsOnly_iff, Prod.exists]
    refine or_congr_right ?_
    constructor
    · rintro ⟨reason, ends⟩
      exact ⟨_, ends, reason, rfl⟩
    · rintro ⟨fault, ends, reason, rfl⟩
      exact ⟨reason, ends⟩
  rw [outcome]
  cases named : path.isEmpty with
  | true =>
      refine iff_of_true ?_ (Or.inl rfl)
      rw [load, named]
      exact failsOnly_ok _
  | false =>
      cases present : store.pathExists path with
      | false =>
          refine iff_of_true ?_ (Or.inr (Or.inl rfl))
          rw [load, named, present]
          cases required with
          | true => exact failsOnly_error_iff.mpr ⟨_, rfl⟩
          | false => exact failsOnly_ok _
      | true => simp [failsOnly_load_iff_of_present required named present]

/-- A key that is a number ends loading in a way that names no file. -/
theorem load_numberKey :
    let text := "1: x\n"
    let store : Store := { root := [("namecheck.yml", .file (.ok (Utf8.encode text.toList)))] }
    let reader : Reader := .ofText fun _ read =>
      if read = text then .ok (.map [(.int 1, .text "x")]) else .ok .null
    load store reader "namecheck.yml" true = .error .notNames ∧
      ¬ Fault.Blames "namecheck.yml" .notNames := by
  refine ⟨rfl, ?_⟩
  rintro ⟨reason, impossible⟩
  contradiction

end Settings

end CasingLint
