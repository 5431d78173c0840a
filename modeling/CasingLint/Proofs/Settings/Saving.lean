import CasingLint.Proofs.Settings.Load
import CasingLint.Proofs.Settings.Merge
import Mathlib.Logic.Equiv.List
import Mathlib.Tactic.DeriveEncodable

/-!
# Loading settings that were saved

What is saved at a path is read there again to the octet.  A reader that undoes what the
writer does therefore hands the saved settings to the merge, which gives back settings that
were loaded as they are, and fills in what other settings leave open.
-/

namespace CasingLint.Settings

open CasingLint.Text Outcome

section Saving

variable {store written : Store} {reader : Reader} {dump : Writer} {path : String}
  {settings : Settings}

theorem read_of_save (saved : save store dump settings path = .ok written) :
    written.read path = .ok (Utf8.encode (dump settings.toValue).toList) := by
  rw [save] at saved
  split at saved
  · exact Store.read_of_writeText saved
  · rcases bind_eq_ok_iff.mp saved with ⟨ready, -, wrote⟩
    exact Store.read_of_writeText wrote

theorem load_of_read {content : Utf8.Octets} {value : Value} (required : Bool)
    (holds : store.read path = .ok content) (reading : reader path content = .ok value)
    (merged : merge path value = .ok settings) :
    load store reader path required =
      .ok (settings, [⟨.info, .settings, "Loaded config from " ++ path⟩]) := by
  rw [load_eq_merge required holds reading, merged]
  rfl

end Saving

/--
Loaded settings come out of a merge as they went in, order of the keys included.  So they
are loaded again after they were saved, if the reader undoes what the writer does.  Any
settings with a mapping of severities and a mapping of options for each rule are loaded with
the defaults filled in where they have nothing of their own.
-/
theorem load_of_save :
    (∀ {origin : String} {value : Value} {settings : Settings},
        merge origin value = .ok settings →
          ∀ path, merge path settings.toValue = .ok settings) ∧
      ∀ {reader : Reader} {dump : Writer} {path : String},
        (∀ value, reader path (Utf8.encode (dump value).toList) = .ok value) →
          ∀ {store written : Store} {settings : Settings},
            save store dump settings path = .ok written →
              ∀ required,
                (∀ {origin : String} {value : Value}, merge origin value = .ok settings →
                  load written reader path required =
                    .ok (settings, [⟨.info, .settings, "Loaded config from " ++ path⟩])) ∧
                (IsProper settings →
                  load written reader path required =
                      .ok (settings.filled,
                        [⟨.info, .settings, "Loaded config from " ++ path⟩]) ∧
                    FillsIn settings settings.filled) := by
  have again : ∀ {origin : String} {value : Value} {settings : Settings},
      merge origin value = .ok settings →
        ∀ path, merge path settings.toValue = .ok settings := by
    intro origin value settings loaded path
    have merged := isMerged_of_merge loaded
    rw [merge_toValue_eq_filled (isProper_of_isMerged merged), filled_of_isMerged merged]
  refine ⟨again, ?_⟩
  intro reader dump path undone store written settings saved required
  have holds := read_of_save saved
  have reading := undone settings.toValue
  constructor
  · intro origin value loaded
    exact load_of_read required holds reading (again loaded path)
  · intro proper
    exact ⟨load_of_read required holds reading (merge_toValue_eq_filled proper path),
      fillsIn_filled settings⟩

/-! ## A reader and a writer for samples -/

namespace Sample

/-- A mark in the code of a value: a value without parts, or where parts begin or end. -/
inductive Mark where
  | null
  | bool (truth : Bool)
  | int (number : Int)
  | finite (negative : Bool) (mantissa : Nat) (exponent : Int)
  | infinite (negative : Bool)
  | nan
  | text (codes : List Nat)
  | octets (codes : List Nat)
  | other (codes : List Nat)
  | parts
  | list
  | tuple
  | set
  | map
  deriving DecidableEq, Encodable

/-- The numbers of the characters of a text. -/
def codes (text : String) : List Nat :=
  text.toList.map Char.toNat

/-- The text with characters of these numbers. -/
def ofCodes (codes : List Nat) : String :=
  String.ofList (codes.map Char.ofNat)

theorem ofCodes_codes (text : String) : ofCodes (codes text) = text := by
  have each : Char.ofNat ∘ Char.toNat = id := by
    funext character
    exact Char.ofNat_toNat character
  rw [ofCodes, codes, List.map_map, each, List.map_id, String.ofList_toList]

/-- The marks of a value: those of its parts come before the mark that says what they make. -/
def marks : Value → List Mark
  | .null => [.null]
  | .bool truth => [.bool truth]
  | .int number => [.int number]
  | .float (.finite negative mantissa exponent) => [.finite negative mantissa exponent]
  | .float (.infinite negative) => [.infinite negative]
  | .float .nan => [.nan]
  | .text content => [.text (codes content)]
  | .octets content => [.octets (content.map UInt8.toNat)]
  | .other name => [.other (codes name)]
  | .list items => .parts :: ofItems items ++ [.list]
  | .tuple items => .parts :: ofItems items ++ [.tuple]
  | .set items => .parts :: ofItems items ++ [.set]
  | .map entries => .parts :: ofEntries entries ++ [.map]
where
  /-- The marks of several values. -/
  ofItems : List Value → List Mark
    | [] => []
    | item :: rest => marks item ++ ofItems rest
  /-- The marks of the keys and values of entries. -/
  ofEntries : List (Value × Value) → List Mark
    | [] => []
    | (key, value) :: rest => marks key ++ marks value ++ ofEntries rest

/-- Keys and values in turn as entries. -/
def inPairs : List Value → List (Value × Value)
  | key :: value :: rest => (key, value) :: inPairs rest
  | _ => []

/-- Puts a value at the front of the innermost collection that is not closed yet. -/
def push (value : Value) : List (List Value) → Option (List (List Value))
  | [] => none
  | frame :: frames => some ((value :: frame) :: frames)

/-- Closes the innermost collection, whose items were put in front of each other. -/
def close (make : List Value → Value) : List (List Value) → Option (List (List Value))
  | [] => none
  | frame :: frames => push (make frame.reverse) frames

/-- Reads one mark. -/
def readMark (frames : List (List Value)) : Mark → Option (List (List Value))
  | .null => push .null frames
  | .bool truth => push (.bool truth) frames
  | .int number => push (.int number) frames
  | .finite negative mantissa exponent => push (.float (.finite negative mantissa exponent)) frames
  | .infinite negative => push (.float (.infinite negative)) frames
  | .nan => push (.float .nan) frames
  | .text codes => push (.text (ofCodes codes)) frames
  | .octets codes => push (.octets (codes.map UInt8.ofNat)) frames
  | .other codes => push (.other (ofCodes codes)) frames
  | .parts => some ([] :: frames)
  | .list => close .list frames
  | .tuple => close .tuple frames
  | .set => close .set frames
  | .map => close (fun items => .map (inPairs items)) frames

theorem inPairs_flatMap (entries : List (Value × Value)) :
    inPairs (entries.flatMap fun entry => [entry.1, entry.2]) = entries := by
  induction entries with
  | nil => rfl
  | cons entry rest ih => exact congrArg (entry :: ·) ih

theorem foldlM_readMark_parts {inner : List Mark} {items : List Value} {last : Mark}
    {make : List Value → Value} {frame : List Value} {frames : List (List Value)}
    (readInner : inner.foldlM readMark ([] :: frame :: frames) =
      some (items.reverse :: frame :: frames))
    (closes : ∀ frames, readMark frames last = close make frames) :
    (.parts :: inner ++ [last]).foldlM readMark (frame :: frames) =
      some ((make items :: frame) :: frames) := by
  rw [List.cons_append, List.foldlM_cons]
  change (inner ++ [last]).foldlM readMark ([] :: frame :: frames) = _
  rw [List.foldlM_append, readInner]
  change [last].foldlM readMark (items.reverse :: frame :: frames) = _
  rw [List.foldlM_cons, closes, close, List.reverse_reverse]
  rfl

mutual

/-- The marks of a value are read back as the value, whatever was read before. -/
theorem foldlM_readMark_marks (frame : List Value) (frames : List (List Value)) :
    ∀ value, (marks value).foldlM readMark (frame :: frames) = some ((value :: frame) :: frames)
  | .null => rfl
  | .bool _ => rfl
  | .int _ => rfl
  | .float (.finite _ _ _) => rfl
  | .float (.infinite _) => rfl
  | .float .nan => rfl
  | .text content => by
      change some ((.text (ofCodes (codes content)) :: frame) :: frames) = _
      rw [ofCodes_codes]
  | .octets content => by
      have each : UInt8.ofNat ∘ UInt8.toNat = id := by
        funext octet
        exact UInt8.ofNat_toNat
      change some ((.octets ((content.map UInt8.toNat).map UInt8.ofNat) :: frame) :: frames) = _
      rw [List.map_map, each, List.map_id]
  | .other name => by
      change some ((.other (ofCodes (codes name)) :: frame) :: frames) = _
      rw [ofCodes_codes]
  | .list items => by
      apply foldlM_readMark_parts _ fun _ => rfl
      rw [foldlM_readMark_ofItems, List.append_nil]
  | .tuple items => by
      apply foldlM_readMark_parts _ fun _ => rfl
      rw [foldlM_readMark_ofItems, List.append_nil]
  | .set items => by
      apply foldlM_readMark_parts _ fun _ => rfl
      rw [foldlM_readMark_ofItems, List.append_nil]
  | .map entries => by
      have read := foldlM_readMark_ofEntries [] (frame :: frames) entries
      rw [List.append_nil] at read
      have closes : ∀ frames,
          readMark frames .map = close (fun items => .map (inPairs items)) frames :=
        fun _ => rfl
      rw [marks, foldlM_readMark_parts read closes, inPairs_flatMap]

theorem foldlM_readMark_ofItems (frame : List Value) (frames : List (List Value)) :
    ∀ items, (marks.ofItems items).foldlM readMark (frame :: frames) =
      some ((items.reverse ++ frame) :: frames)
  | [] => rfl
  | item :: rest => by
      rw [marks.ofItems, List.foldlM_append, foldlM_readMark_marks frame frames item]
      refine (foldlM_readMark_ofItems (item :: frame) frames rest).trans ?_
      rw [List.reverse_cons, List.append_assoc, List.singleton_append]

theorem foldlM_readMark_ofEntries (frame : List Value) (frames : List (List Value)) :
    ∀ entries, (marks.ofEntries entries).foldlM readMark (frame :: frames) =
      some (((entries.flatMap fun entry => [entry.1, entry.2]).reverse ++ frame) :: frames)
  | [] => rfl
  | (key, value) :: rest => by
      rw [marks.ofEntries, List.append_assoc, List.foldlM_append,
        foldlM_readMark_marks frame frames key]
      change ((marks value ++ marks.ofEntries rest).foldlM readMark ((key :: frame) :: frames)) = _
      rw [List.foldlM_append, foldlM_readMark_marks (key :: frame) frames value]
      refine (foldlM_readMark_ofEntries (value :: key :: frame) frames rest).trans ?_
      simp

end

/-- Settings that give one severity and no options. -/
def strict : Settings where
  enabledRules := .list [.text "naming.*"]
  severities := .record [(Rule.Naming.id, .text "error")]

/-- The file that these settings are saved as. -/
def strictText : String :=
  "enabled_rules:\n- naming.*\nmax_findings_per_file: 200\nseverity_threshold: info\n" ++
    "rule_severities:\n  naming.conventions: error\nrule_configs: \x7b\x7d\n"

/-- A writer that knows how the strict settings are written, and has a number for all else. -/
def dump : Writer := fun value =>
  if marks value = marks strict.toValue then strictText
  else String.ofList (Nat.toDigits 10 (Encodable.encode (marks value)))

/-- A reader that knows the file of the strict settings and takes all else for a number. -/
def reader : Reader := .ofText fun _ text =>
  if text = strictText then .ok strict.toValue
  else
    let marks := (Encodable.decode (Nat.ofDigitChars 10 text.toList 0)).getD []
    match marks.foldlM readMark [[]] with
    | some [[value]] => .ok value
    | _ => .error (.malformed "unknown text")

/-- The reader undoes what the writer does. -/
theorem reader_dump (path : String) (value : Value) :
    reader path (Utf8.encode (dump value).toList) = .ok value := by
  have readBack := foldlM_readMark_marks [] [] value
  by_cases same : marks value = marks strict.toValue
  · have isStrict : value = strict.toValue := by
      rw [same, foldlM_readMark_marks] at readBack
      simpa using readBack.symm
    rw [dump, if_pos same, reader, ofText_encode _ path (by decide +kernel), if_pos rfl, isStrict]
  · have digits {character : Char}
        (member : character ∈ Nat.toDigits 10 (Encodable.encode (marks value))) :
        character.isDigit = true :=
      Nat.isDigit_of_mem_toDigits (by decide) (by decide) member
    have free : '\r' ∉ Nat.toDigits 10 (Encodable.encode (marks value)) :=
      fun member => absurd (digits member) (by decide)
    have other : String.ofList (Nat.toDigits 10 (Encodable.encode (marks value))) ≠
        strictText := by
      intro equal
      have first : 'e' ∈ strictText.toList := by decide +kernel
      rw [← equal, String.toList_ofList] at first
      exact absurd (digits first) (by decide)
    rw [dump, if_neg same, reader, ofText_encode _ path (by rwa [String.toList_ofList]),
      if_neg other, String.toList_ofList, Nat.ofDigitChars_ten_toDigits, Encodable.encodek]
    dsimp only [Option.getD_some]
    rw [readBack]

end Sample

/-- The given severity stays, and the default options are filled in. -/
theorem load_of_save_strict :
    ∃ written,
      save {} Sample.dump Sample.strict "nested/namecheck.yaml" = .ok written ∧
        written.read "nested/namecheck.yaml" = .ok (Utf8.encode Sample.strictText.toList) ∧
        load written Sample.reader "nested/namecheck.yaml" false =
          .ok ({ Sample.strict with options := default.options },
            [⟨.info, .settings, "Loaded config from nested/namecheck.yaml"⟩]) := by
  have isStrict : Sample.dump Sample.strict.toValue = Sample.strictText := if_pos rfl
  have ends : (save {} (fun _ => Sample.strictText) Sample.strict
      "nested/namecheck.yaml").isOk = true := by
    decide +kernel
  rcases isOk_iff.mp ends with ⟨written, wrote⟩
  have saved : save {} Sample.dump Sample.strict "nested/namecheck.yaml" = .ok written := by
    rw [← wrote, save, save, isStrict]
  have proper : IsProper Sample.strict :=
    ⟨⟨_, rfl, by decide⟩, ⟨[], rfl, by decide, List.forall_mem_nil _⟩⟩
  rcases (load_of_save.2 (Sample.reader_dump _) saved false).2 proper with ⟨loaded, -⟩
  refine ⟨written, saved, ?_, loaded⟩
  rw [read_of_save saved, isStrict]

end CasingLint.Settings
