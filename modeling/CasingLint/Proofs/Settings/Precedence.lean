import CasingLint.Proofs.Settings.Load
import CasingLint.Proofs.Settings.Merge
import CasingLint.Proofs.Value.Reordering

/-!
# What prevails in loaded settings

What a settings file gives prevails over the defaults: a plain field as a whole, a severity for
its rule, an option for its rule and its name.  The sections of a file must be mappings or null,
and only that can make loading fail if all fields are known.  The order in which the file lists
its fields, rules and options is of no account.

Entries are compared by membership and not by a look at one key, since a mapping may hold several
keys that are not even the same as themselves.
-/

namespace CasingLint.Settings

open Outcome
open Value (HasDistinctKeys AreReordered Reordered)

/-- Does the reader find these entries in the file at a path? -/
def Gives (store : Store) (reader : Reader) (path : String) (entries : List (Value × Value)) :
    Prop :=
  ∃ content, store.read path = .ok content ∧ reader path content = .ok (.map entries)

/-- Do the options of rules have this value under this name for this rule? -/
def HasOption (options : List (Value × Value)) (rule name value : Value) : Prop :=
  ∃ own, (rule, own) ∈ options ∧ (name, value) ∈ knownEntries own

/-- Settings in which the entries of a file prevail over the defaults. -/
structure IsMergeOf (entries : List (Value × Value)) (settings : Settings) : Prop where
  enabledRules : settings.enabledRules =
    (Value.lookup entries (.text "enabled_rules")).getD default.enabledRules
  maxFindings : settings.maxFindings =
    (Value.lookup entries (.text "max_findings_per_file")).getD default.maxFindings
  threshold : settings.threshold =
    (Value.lookup entries (.text "severity_threshold")).getD default.threshold
  proper : IsProper settings
  severity : ∀ rule value,
    (rule, value) ∈ knownEntries settings.severities ↔
      (rule, value) ∈ knownEntries (sectionOf entries "rule_severities") ∨
        (∀ other, (rule, other) ∉ knownEntries (sectionOf entries "rule_severities")) ∧
          (rule, value) ∈ defaultSeverities
  rules : ∀ rule,
    (∃ own, (rule, own) ∈ knownEntries settings.options) ↔
      (∃ own, (rule, own) ∈ knownEntries (sectionOf entries "rule_configs")) ∨
        ∃ own, (rule, own) ∈ defaultOptions
  option : ∀ rule name value,
    HasOption (knownEntries settings.options) rule name value ↔
      HasOption (knownEntries (sectionOf entries "rule_configs")) rule name value ∨
        (∀ other,
            ¬ HasOption (knownEntries (sectionOf entries "rule_configs")) rule name other) ∧
          HasOption defaultOptions rule name value

/-! ## Given options over default ones -/

section Filling

variable {options : List (Value × Value)} {rule name value : Value}

theorem mem_optionsIn_iff (distinct : HasDistinctKeys options) :
    (name, value) ∈ optionsIn options rule ↔
      rule.sameKey rule = true ∧ HasOption options rule name value := by
  rw [optionsIn, HasOption]
  constructor
  · cases found : Value.lookup options rule with
    | none =>
        intro member
        cases member
    | some own =>
        intro member
        rcases Value.exists_of_lookup_eq_some found with ⟨among, reflexive⟩
        exact ⟨reflexive, own, among, member⟩
  · rintro ⟨reflexive, own, among, member⟩
    rw [Value.lookup_of_mem distinct among reflexive]
    exact member

theorem mem_optionsIn_default_iff :
    (name, value) ∈ optionsIn defaultOptions rule ↔ HasOption defaultOptions rule name value := by
  rw [mem_optionsIn_iff (by decide)]
  refine and_iff_right_of_imp ?_
  rintro ⟨own, among, -⟩
  cases List.mem_singleton.mp among
  exact Value.sameKey_text _

theorem mem_map_fillRule_iff :
    (rule, value) ∈ options.map fillRule ↔
      ∃ own, (rule, own) ∈ options ∧
        .map (Value.fill (optionsIn defaultOptions rule) (knownEntries own)) = value := by
  rw [List.mem_map]
  constructor
  · rintro ⟨⟨_, own⟩, among, same⟩
    cases same
    exact ⟨own, among, rfl⟩
  · rintro ⟨own, among, rfl⟩
    exact ⟨(rule, own), among, rfl⟩

theorem mem_filled_rules_iff (distinct : HasDistinctKeys options) :
    (rule, value) ∈ Value.fill defaultOptions (options.map fillRule) ↔
      (∃ own, (rule, own) ∈ options ∧
          .map (Value.fill (optionsIn defaultOptions rule) (knownEntries own)) = value) ∨
        (∀ own, (rule, own) ∉ options) ∧ (rule, value) ∈ defaultOptions := by
  have distinctFilled : HasDistinctKeys (options.map fillRule) :=
    List.pairwise_map.mpr distinct
  rw [Value.mem_fill_iff distinctFilled (by decide), mem_map_fillRule_iff]
  refine or_congr_right (and_congr_left fun _ => ?_)
  constructor
  · intro absent own among
    exact absent _ (mem_map_fillRule_iff.mpr ⟨own, among, rfl⟩)
  · intro absent other among
    rcases mem_map_fillRule_iff.mp among with ⟨own, isGiven, -⟩
    exact absent own isGiven

theorem exists_filled_rule_iff (distinct : HasDistinctKeys options) :
    (∃ own, (rule, own) ∈ Value.fill defaultOptions (options.map fillRule)) ↔
      (∃ own, (rule, own) ∈ options) ∨ ∃ own, (rule, own) ∈ defaultOptions := by
  constructor
  · rintro ⟨own, member⟩
    rcases (mem_filled_rules_iff distinct).mp member with ⟨given, among, -⟩ | ⟨-, among⟩
    · exact Or.inl ⟨given, among⟩
    · exact Or.inr ⟨own, among⟩
  · intro known
    by_cases given : ∃ own, (rule, own) ∈ options
    · rcases given with ⟨own, among⟩
      exact ⟨_, (mem_filled_rules_iff distinct).mpr (Or.inl ⟨own, among, rfl⟩)⟩
    · rcases known.resolve_left given with ⟨own, among⟩
      refine ⟨own, (mem_filled_rules_iff distinct).mpr (Or.inr ⟨?_, among⟩)⟩
      exact fun other isGiven => given ⟨other, isGiven⟩

/-- A given option prevails over a default one, which stays otherwise. -/
theorem hasOption_filled_iff (distinct : HasDistinctKeys options)
    (each : ∀ entry ∈ options, HasDistinctKeys (knownEntries entry.2)) :
    HasOption (Value.fill defaultOptions (options.map fillRule)) rule name value ↔
      HasOption options rule name value ∨
        (∀ other, ¬ HasOption options rule name other) ∧
          HasOption defaultOptions rule name value := by
  have inRule : ∀ {own : Value}, (rule, own) ∈ options →
      ((name, value) ∈ Value.fill (optionsIn defaultOptions rule) (knownEntries own) ↔
        (name, value) ∈ knownEntries own ∨
          (∀ other, (name, other) ∉ knownEntries own) ∧
            HasOption defaultOptions rule name value) := by
    intro own among
    rw [Value.mem_fill_iff (each _ among) (sameKey_of_mem_optionsIn rule),
      mem_optionsIn_default_iff]
  constructor
  · rintro ⟨_, isRule, isOption⟩
    rcases (mem_filled_rules_iff distinct).mp isRule with ⟨own, among, rfl⟩ | ⟨absent, isDefault⟩
    · rcases (inRule among).mp isOption with given | ⟨absent, isDefault⟩
      · exact Or.inl ⟨own, among, given⟩
      · refine Or.inr ⟨?_, isDefault⟩
        -- A rule that has defaults is a key like any other, so the file names it only once.
        rintro other ⟨twin, twinAmong, given⟩
        have reflexive :=
          ((mem_optionsIn_iff (by decide)).mp (mem_optionsIn_default_iff.mpr isDefault)).1
        have found := Value.lookup_of_mem distinct among reflexive
        rw [Value.lookup_of_mem distinct twinAmong reflexive] at found
        cases found
        exact absent other given
    · refine Or.inr ⟨?_, _, isDefault, isOption⟩
      rintro other ⟨own, among, -⟩
      exact absent own among
  · rintro (⟨own, among, given⟩ | ⟨absent, isDefault⟩)
    · exact ⟨_, (mem_filled_rules_iff distinct).mpr (Or.inl ⟨own, among, rfl⟩),
        (inRule among).mpr (Or.inl given)⟩
    · by_cases isGiven : ∃ own, (rule, own) ∈ options
      · rcases isGiven with ⟨own, among⟩
        refine ⟨_, (mem_filled_rules_iff distinct).mpr (Or.inl ⟨own, among, rfl⟩), ?_⟩
        refine (inRule among).mpr (Or.inr ⟨?_, isDefault⟩)
        exact fun other given => absent other ⟨own, among, given⟩
      · rcases isDefault with ⟨own, among, isOption⟩
        refine ⟨own, (mem_filled_rules_iff distinct).mpr (Or.inr ⟨?_, among⟩), isOption⟩
        exact fun other given => isGiven ⟨other, given⟩

end Filling

section Loading

variable {store : Store} {reader : Reader} {path : String} {entries others : List (Value × Value)}

theorem isMergeOf_filled (document : IsDocument entries) (sections : AreSections entries) :
    IsMergeOf entries (asWritten entries).filled where
  enabledRules := rfl
  maxFindings := rfl
  threshold := rfl
  proper := isProper_of_isMerged (isMerged_of_merge (merge_eq_filled "" document sections))
  severity _ _ := Value.mem_fill_iff document.severities (by decide)
  rules _ := exists_filled_rule_iff document.rules
  option _ _ _ := hasOption_filled_iff document.rules document.options

/-! ## Files in another order -/

theorem areReordered_knownEntries {one other : Value} (same : Reordered one other) :
    AreReordered (knownEntries one) (knownEntries other) := by
  cases same with
  | same value => exact Value.areReordered_refl _
  | list _ => exact Value.areReordered_refl []
  | map order each => exact ⟨_, order, each⟩

theorem IsSection.of_reordered {one other : Value} (isSection : IsSection one)
    (same : Reordered one other) :
    IsSection other := by
  cases same with
  | same _ => exact isSection
  | list _ => simp [IsSection] at isSection
  | map _ _ => exact Or.inr ⟨_, rfl⟩

theorem IsDocument.reordered_sectionOf (document : IsDocument entries)
    (same : AreReordered entries others) (name : String) :
    Reordered (sectionOf entries name) (sectionOf others name) :=
  same.lookup_getD document.distinct (.text name) .null

theorem IsDocument.of_areReordered (document : IsDocument entries)
    (same : AreReordered entries others) :
    IsDocument others := by
  have sections := fun name => areReordered_knownEntries (document.reordered_sectionOf same name)
  refine ⟨?_, same.hasDistinctKeys document.distinct,
    (sections _).hasDistinctKeys document.severities,
    (sections _).hasDistinctKeys document.rules, ?_⟩
  · rintro ⟨key, other⟩ member
    rcases same.exists_of_mem member with ⟨one, among, -⟩
    exact document.known (key, one) among
  · rintro ⟨rule, other⟩ member
    rcases (sections _).exists_of_mem member with ⟨one, among, inside⟩
    exact (areReordered_knownEntries inside).hasDistinctKeys (document.options _ among)

theorem AreSections.of_areReordered (sections : AreSections entries) (document : IsDocument entries)
    (same : AreReordered entries others) :
    AreSections others := by
  refine ⟨sections.severities.of_reordered (document.reordered_sectionOf same _),
    sections.rules.of_reordered (document.reordered_sectionOf same _), ?_⟩
  rintro ⟨rule, other⟩ member
  rcases (areReordered_knownEntries (document.reordered_sectionOf same _)).exists_of_mem member with
    ⟨one, among, inside⟩
  exact (sections.options _ among).of_reordered inside

/-- The settings are the same up to order in whatever order the file lists its entries. -/
theorem reordered_filled (document : IsDocument entries) (same : AreReordered entries others) :
    Reordered (asWritten entries).filled.toValue (asWritten others).filled.toValue := by
  have plain := fun name => same.lookup_getD document.distinct (.text name)
  have sections := fun name => areReordered_knownEntries (document.reordered_sectionOf same name)
  have severities :=
    ((sections "rule_severities").fill document.severities defaultSeverities).reordered
  have rules : AreReordered
      ((knownEntries (sectionOf entries "rule_configs")).map fillRule)
      ((knownEntries (sectionOf others "rule_configs")).map fillRule) := by
    refine (sections "rule_configs").map ?_
    rintro _ member _ ⟨rule, inside⟩
    exact .under rule
      ((areReordered_knownEntries inside).fill (document.options _ member) _).reordered
  have options := (rules.fill (List.pairwise_map.mpr document.rules) defaultOptions).reordered
  exact .map (.refl _) (.cons (.under _ (plain _ _)) (.cons (.under _ (plain _ _))
    (.cons (.under _ (plain _ _)) (.cons (.under _ severities) (.cons (.under _ options) .nil)))))

/-! ## Loading a file -/

theorem load_eq_filled (required : Bool) (gives : Gives store reader path entries)
    (document : IsDocument entries) (sections : AreSections entries) :
    load store reader path required =
      .ok ((asWritten entries).filled, [⟨.info, .settings, "Loaded config from " ++ path⟩]) := by
  rcases gives with ⟨content, holds, reading⟩
  rw [load_eq_merge required holds reading, merge_eq_filled path document sections]
  rfl

theorem exists_reason_of_not_areSections (required : Bool)
    (gives : Gives store reader path entries) (document : IsDocument entries)
    (malformed : ¬ AreSections entries) :
    ∃ reason, load store reader path required = .error (.settings path reason) := by
  rcases gives with ⟨content, holds, reading⟩
  have textKeys : (Value.map entries).HasTextKeys := by
    intro entry member
    rcases document.known entry member with ⟨name, -, isText⟩
    exact ⟨name, isText⟩
  rw [load_eq_merge required holds reading]
  cases ends : merge path (.map entries) with
  | ok settings => exact absurd (areSections_of_merge document ends) malformed
  | error fault =>
      rcases (failsOnly_merge_iff _).mpr textKeys fault ends with ⟨reason, rfl⟩
      exact ⟨reason, rfl⟩

/--
Loading a file whose fields are all known fails exactly if a section, or the options of a rule,
is neither null nor a mapping, and then it names the file.  Otherwise it ends with settings in
which the entries of the file prevail over the defaults.  A file that lists the same entries in
another order gives the same settings up to order.
-/
theorem load_isMergeOf (required : Bool) (gives : Gives store reader path entries)
    (document : IsDocument entries) :
    ((∃ reason, load store reader path required = .error (.settings path reason)) ↔
        ¬ AreSections entries) ∧
      (AreSections entries →
        ∃ settings,
          load store reader path required =
              .ok (settings, [⟨.info, .settings, "Loaded config from " ++ path⟩]) ∧
            IsMergeOf entries settings ∧
            ∀ {otherStore : Store} {otherReader : Reader} {otherPath : String}
              {others : List (Value × Value)} (otherRequired : Bool),
              Gives otherStore otherReader otherPath others →
                Reordered (.map entries) (.map others) →
                  ∃ otherSettings rows,
                    load otherStore otherReader otherPath otherRequired =
                        .ok (otherSettings, rows) ∧
                      Reordered settings.toValue otherSettings.toValue) := by
  refine ⟨⟨?_, exists_reason_of_not_areSections required gives document⟩, ?_⟩
  · rintro ⟨reason, fails⟩ sections
    rw [load_eq_filled required gives document sections] at fails
    contradiction
  · intro sections
    refine ⟨_, load_eq_filled required gives document sections,
      isMergeOf_filled document sections, ?_⟩
    intro otherStore otherReader otherPath others otherRequired otherGives reordered
    rcases reordered.exists_entries with ⟨_, isMap, same⟩
    cases isMap
    exact ⟨_, _, load_eq_filled otherRequired otherGives (document.of_areReordered same)
      (sections.of_areReordered document same), reordered_filled document same⟩

end Loading

namespace Sample

/-- A file with a plain field and a section that are null, one more option and one more rule. -/
def sparseText : String :=
  "rule_configs:\n  naming.conventions:\n    skip_tests: true\n  style.spacing:\n" ++
    "severity_threshold:\nrule_severities:\n"

/-- What a reader makes of the file. -/
def sparseEntries : List (Value × Value) :=
  [(.text "rule_configs",
      .record [(Rule.Naming.id, .record [("skip_tests", .bool true)]), ("style.spacing", .null)]),
    (.text "severity_threshold", .null),
    (.text "rule_severities", .null)]

/-- A store with the file under two names. -/
def sparseStore : Store where
  root := ["first.yml", "second.yml"].map fun name =>
    (name, .file (.ok (Text.Utf8.encode sparseText.toList)))

/-- A reader that lists the fields of the second file in the opposite order. -/
def sparseReader : Reader := .ofText fun path text =>
  if text = sparseText then
    .ok (.map (if path = "second.yml" then sparseEntries.reverse else sparseEntries))
  else .error (.malformed "unknown text")

theorem gives_sparse {path : String}
    (holds : sparseStore.read path = .ok (Text.Utf8.encode sparseText.toList)) :
    Gives sparseStore sparseReader path
      (if path = "second.yml" then sparseEntries.reverse else sparseEntries) := by
  refine ⟨_, holds, ?_⟩
  rw [sparseReader, ofText_encode _ path (by decide)]
  exact if_pos rfl

end Sample

/-- Default options stay beside the given one, and the opposite order gives the same settings. -/
theorem load_isMergeOf_sparse :
    ∃ settings reversed rows,
      load Sample.sparseStore Sample.sparseReader "first.yml" true =
          .ok (settings, [⟨.info, .settings, "Loaded config from first.yml"⟩]) ∧
        IsMergeOf Sample.sparseEntries settings ∧
        load Sample.sparseStore Sample.sparseReader "second.yml" false = .ok (reversed, rows) ∧
        Reordered settings.toValue reversed.toValue := by
  have gives : Gives Sample.sparseStore Sample.sparseReader "first.yml" Sample.sparseEntries :=
    Sample.gives_sparse rfl
  have givesReversed : Gives Sample.sparseStore Sample.sparseReader "second.yml"
      Sample.sparseEntries.reverse :=
    Sample.gives_sparse rfl
  have document : IsDocument Sample.sparseEntries := by
    refine ⟨?_, by decide, by decide, by decide, by decide⟩
    simp [Sample.sparseEntries, fieldNames]
  have sections : AreSections Sample.sparseEntries :=
    ⟨Or.inl rfl, Or.inr ⟨_, rfl⟩, List.forall_mem_cons.mpr
      ⟨Or.inr ⟨_, rfl⟩, List.forall_mem_singleton.mpr (Or.inl rfl)⟩⟩
  rcases (load_isMergeOf true gives document).2 sections with ⟨settings, loaded, isMerge, same⟩
  have reordered : Reordered (.map Sample.sparseEntries) (.map Sample.sparseEntries.reverse) :=
    .map (List.reverse_perm _).symm
      (List.forall₂_same.mpr fun entry _ => .under entry.1 (.same entry.2))
  rcases same false givesReversed reordered with ⟨reversed, rows, loadedReversed, sameSettings⟩
  exact ⟨settings, reversed, rows, loaded, isMerge, loadedReversed, sameSettings⟩

end CasingLint.Settings
