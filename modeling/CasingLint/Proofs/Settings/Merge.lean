import CasingLint.Proofs.Outcome
import CasingLint.Proofs.Value.Mapping
import CasingLint.Settings.Load
import Mathlib.Data.Set.List

/-!
# Settings as the result of a merge

Whatever a settings file holds, the merge keeps the default rules and the default options
in front and never repeats a key.  Fields are merged one after the other, which is the same
as laying them over the defaults at once.  Settings with the defaults in front come out of a
merge as they went in.  Other settings come out with the defaults filled in where they have
nothing of their own, as long as their severities are a mapping and their options a mapping
of mappings.
-/

namespace CasingLint.Settings

open Outcome
open Value (HasDistinctKeys IsOver)

/-- The severities that hold without a settings file. -/
def defaultSeverities : List (Value × Value) :=
  knownEntries default.severities

/-- The options of rules that hold without a settings file. -/
def defaultOptions : List (Value × Value) :=
  knownEntries default.options

/-- The options of one rule among those of all rules. -/
def optionsIn (options : List (Value × Value)) (rule : Value) : List (Value × Value) :=
  ((Value.lookup options rule).map knownEntries).getD []

/-! ## Merging one field -/

/-- Is the value a mapping or null, as a section must be? -/
def IsSection (value : Value) : Prop :=
  value = .null ∨ ∃ entries, value = .map entries

section Fields

variable {path name : String} {value : Value} {entries : List (Value × Value)}
variable {settings next : Settings}

theorem sectionEntries_eq_ok_iff :
    sectionEntries path name value = .ok entries ↔
      IsSection value ∧ entries = knownEntries value := by
  cases value with
  | null => simp [sectionEntries, IsSection, knownEntries, eq_comm]
  | map own => simp [sectionEntries, IsSection, knownEntries, eq_comm]
  | _ => simp [sectionEntries, IsSection]

theorem mergeOptions_eq_ok_iff {options next : List (Value × Value)} {rule given : Value} :
    mergeOptions path options rule given = .ok next ↔
      IsSection given ∧
        Value.insert options rule
          (.map (Value.update (optionsIn options rule) (knownEntries given))) = next := by
  rw [mergeOptions, bind_eq_ok_iff]
  constructor
  · rintro ⟨own, isOwn, same⟩
    rcases sectionEntries_eq_ok_iff.mp isOwn with ⟨isSection, rfl⟩
    cases same
    exact ⟨isSection, rfl⟩
  · rintro ⟨isSection, rfl⟩
    exact ⟨_, sectionEntries_eq_ok_iff.mpr ⟨isSection, rfl⟩, rfl⟩

theorem mergeField_severities_eq_ok_iff :
    mergeField path settings "rule_severities" value = .ok next ↔
      IsSection value ∧
        { settings with
          severities := .map (Value.update (knownEntries settings.severities)
            (knownEntries value)) } = next := by
  rw [mergeField, if_pos rfl, bind_eq_ok_iff]
  constructor
  · rintro ⟨own, isOwn, same⟩
    rcases sectionEntries_eq_ok_iff.mp isOwn with ⟨isSection, rfl⟩
    cases same
    exact ⟨isSection, rfl⟩
  · rintro ⟨isSection, rfl⟩
    exact ⟨_, sectionEntries_eq_ok_iff.mpr ⟨isSection, rfl⟩, rfl⟩

theorem mergeField_options_eq_ok_iff :
    mergeField path settings "rule_configs" value = .ok next ↔
      IsSection value ∧
        ∃ merged,
          (knownEntries value).foldlM
              (fun options (rule, given) => mergeOptions path options rule given)
              (knownEntries settings.options) = .ok merged ∧
            { settings with options := .map merged } = next := by
  rw [mergeField, if_neg (by decide), if_pos rfl, bind_eq_ok_iff]
  constructor
  · rintro ⟨own, isOwn, ends⟩
    rcases sectionEntries_eq_ok_iff.mp isOwn with ⟨isSection, rfl⟩
    rcases bind_eq_ok_iff.mp ends with ⟨merged, folds, same⟩
    cases same
    exact ⟨isSection, merged, folds, rfl⟩
  · rintro ⟨isSection, merged, folds, rfl⟩
    exact ⟨_, sectionEntries_eq_ok_iff.mpr ⟨isSection, rfl⟩,
      bind_eq_ok_iff.mpr ⟨merged, folds, rfl⟩⟩

end Fields

/-! ## What a merge keeps -/

/-- Options of rules over the default ones. -/
structure AreMerged (options : List (Value × Value)) : Prop where
  rules : IsOver (defaultOptions.map Prod.fst) options
  each : ∀ entry ∈ options, ∃ own, entry.2 = .map own ∧
    IsOver ((optionsIn defaultOptions entry.1).map Prod.fst) own

/-- Settings that are merged over the default ones. -/
structure IsMerged (settings : Settings) : Prop where
  severities : ∃ entries, settings.severities = .map entries ∧
    IsOver (defaultSeverities.map Prod.fst) entries
  options : ∃ entries, settings.options = .map entries ∧ AreMerged entries

section Keeping

variable {path : String} {options : List (Value × Value)}

theorem AreMerged.optionsIn (merged : AreMerged options) (rule : Value) :
    IsOver ((optionsIn defaultOptions rule).map Prod.fst) (optionsIn options rule) := by
  rw [Settings.optionsIn.eq_def options]
  cases found : Value.lookup options rule with
  | some value =>
      rcases merged.each _ (Value.mem_of_lookup_eq_some found) with ⟨own, rfl, isOver⟩
      exact isOver
  | none =>
      have absent : Value.lookup defaultOptions rule = none := by
        rw [Value.lookup_eq_none_iff]
        intro entry member
        exact merged.rules.not_same found (List.mem_map_of_mem member)
      rw [Settings.optionsIn, absent]
      exact ⟨List.nil_prefix, List.Pairwise.nil⟩

/-- The options of one more rule leave merged options merged. -/
theorem AreMerged.mergeOptions {rule given : Value} {next : List (Value × Value)}
    (merged : AreMerged options) (ends : mergeOptions path options rule given = .ok next) :
    AreMerged next := by
  rcases mergeOptions_eq_ok_iff.mp ends with ⟨-, rfl⟩
  refine ⟨merged.rules.insert rule _, ?_⟩
  intro entry member
  rcases Value.mem_of_mem_insert member with old | rfl
  · exact merged.each entry old
  · exact ⟨_, rfl, (merged.optionsIn rule).update _⟩

/-- One more field leaves merged settings merged. -/
theorem IsMerged.mergeField {settings next : Settings} {name : String} {value : Value}
    (merged : IsMerged settings) (ends : mergeField path settings name value = .ok next) :
    IsMerged next := by
  by_cases isSeverities : name = "rule_severities"
  · cases isSeverities
    rcases mergeField_severities_eq_ok_iff.mp ends with ⟨-, rfl⟩
    rcases merged.severities with ⟨old, isMap, isOver⟩
    refine ⟨⟨_, rfl, ?_⟩, merged.options⟩
    rw [isMap]
    exact isOver.update _
  by_cases isOptions : name = "rule_configs"
  · cases isOptions
    rcases mergeField_options_eq_ok_iff.mp ends with ⟨-, options, folded, rfl⟩
    rcases merged.options with ⟨old, isMap, areMerged⟩
    rw [isMap] at folded
    refine ⟨merged.severities, options, rfl, ?_⟩
    exact foldlM_invariant (fun _ _ _ holds ends => AreMerged.mergeOptions holds ends)
      areMerged folded
  rw [Settings.mergeField, if_neg isSeverities, if_neg isOptions] at ends
  cases ends
  rw [set?.eq_def]
  split
  · exact ⟨merged.severities, merged.options⟩
  · exact ⟨merged.severities, merged.options⟩
  · exact ⟨merged.severities, merged.options⟩
  · contradiction
  · contradiction
  · exact merged

theorem isMerged_default : IsMerged default where
  severities := ⟨_, rfl, List.prefix_rfl, by decide⟩
  options := by
    refine ⟨_, rfl, ⟨List.prefix_rfl, by decide⟩, ?_⟩
    intro entry member
    cases List.mem_singleton.mp member
    exact ⟨_, rfl, List.prefix_rfl, by decide⟩

/-- Whatever the file holds, the settings are merged over the default ones. -/
theorem isMerged_of_merge {loaded : Value} {settings : Settings}
    (ends : merge path loaded = .ok settings) :
    IsMerged settings := by
  rw [merge.eq_def] at ends
  split at ends
  · cases ends
    exact isMerged_default
  · split at ends
    · rcases bind_eq_ok_iff.mp ends with ⟨fields, -, folded⟩
      exact foldlM_invariant (fun _ _ _ holds ends => IsMerged.mergeField holds ends)
        isMerged_default folded
    · contradiction

end Keeping

/-! ## What a file gives -/

/-- The section of a file with this name, which is null if the file has none. -/
def sectionOf (entries : List (Value × Value)) (name : String) : Value :=
  (Value.lookup entries (.text name)).getD .null

/--
The entries of a file whose fields are all known.  As in any mapping, no key comes again, be it at
the top, in a section or among the options of a rule.
-/
structure IsDocument (entries : List (Value × Value)) : Prop where
  known : ∀ entry ∈ entries, ∃ name ∈ fieldNames, entry.1 = .text name
  distinct : HasDistinctKeys entries
  severities : HasDistinctKeys (knownEntries (sectionOf entries "rule_severities"))
  rules : HasDistinctKeys (knownEntries (sectionOf entries "rule_configs"))
  options : ∀ entry ∈ knownEntries (sectionOf entries "rule_configs"),
    HasDistinctKeys (knownEntries entry.2)

/-- Both sections, and the options of each rule, are mappings or null. -/
structure AreSections (entries : List (Value × Value)) : Prop where
  severities : IsSection (sectionOf entries "rule_severities")
  rules : IsSection (sectionOf entries "rule_configs")
  options : ∀ entry ∈ knownEntries (sectionOf entries "rule_configs"), IsSection entry.2

/-- The options of one rule over those that it has already. -/
def overRule (options : List (Value × Value)) (entry : Value × Value) : Value × Value :=
  (entry.1, .map (Value.fill (optionsIn options entry.1) (knownEntries entry.2)))

/-- Settings with the fields of a file over them. -/
def overlay (base : Settings) (entries : List (Value × Value)) : Settings where
  enabledRules := (Value.lookup entries (.text "enabled_rules")).getD base.enabledRules
  maxFindings := (Value.lookup entries (.text "max_findings_per_file")).getD base.maxFindings
  threshold := (Value.lookup entries (.text "severity_threshold")).getD base.threshold
  severities := .map (Value.update (knownEntries base.severities)
    (knownEntries (sectionOf entries "rule_severities")))
  options := .map (Value.update (knownEntries base.options)
    ((knownEntries (sectionOf entries "rule_configs")).map
      (overRule (knownEntries base.options))))

section Giving

variable {path name : String} {value : Value} {entries rest : List (Value × Value)}
variable {base : Settings}

/-- The options of different rules are merged independently of each other. -/
theorem foldlM_mergeOptions {start given : List (Value × Value)}
    (distinct : HasDistinctKeys given)
    (each : ∀ entry ∈ given, IsSection entry.2 ∧ HasDistinctKeys (knownEntries entry.2)) :
    given.foldlM (fun options (rule, value) => mergeOptions path options rule value) start =
      .ok (Value.update start (given.map (overRule start))) := by
  induction given generalizing start with
  | nil => rfl
  | cons entry rest ih =>
      rcases List.pairwise_cons.mp distinct with ⟨apart, distinctRest⟩
      rcases List.forall_mem_cons.mp each with ⟨⟨isSection, distinctOwn⟩, eachRest⟩
      have others : ∀ other ∈ rest,
          overRule (Value.insert start entry.1 (overRule start entry).2) other =
            overRule start other := by
        intro other member
        rw [overRule, optionsIn, Value.lookup_insert_of_not_same (apart other member), overRule,
          optionsIn]
      rw [List.foldlM_cons, bind_eq_ok_iff]
      refine ⟨_, mergeOptions_eq_ok_iff.mpr ⟨isSection, rfl⟩, ?_⟩
      rw [Value.update_eq_fill distinctOwn, ih distinctRest eachRest, List.map_cons,
        Value.update_cons]
      congr 2
      exact List.map_congr_left others

/-- One field of a file is laid over the settings. -/
theorem mergeField_eq_overlay (document : IsDocument [(.text name, value)])
    (sections : AreSections [(.text name, value)])
    (severities : ∃ own, base.severities = .map own) (options : ∃ own, base.options = .map own) :
    mergeField path base name value = .ok (overlay base [(.text name, value)]) := by
  rcases base with ⟨enabledRules, maxFindings, threshold, _, _⟩
  rcases severities with ⟨severities, rfl⟩
  rcases options with ⟨options, rfl⟩
  rcases document.known _ (List.mem_singleton_self _) with ⟨_, isField, same⟩
  cases same
  simp only [fieldNames, List.mem_cons, List.not_mem_nil, or_false] at isField
  rcases isField with rfl | rfl | rfl | rfl | rfl
  · rfl
  · rfl
  · rfl
  · exact mergeField_severities_eq_ok_iff.mpr ⟨sections.severities, rfl⟩
  · refine mergeField_options_eq_ok_iff.mpr ⟨sections.rules, _, ?_, rfl⟩
    exact foldlM_mergeOptions document.rules fun entry member =>
      ⟨sections.options entry member, document.options entry member⟩

theorem sectionOf_cons_cases {entry : Value × Value}
    (apart : ∀ other ∈ rest, entry.1.sameKey other.1 = false) (name : String) :
    (sectionOf rest name = .null ∧ sectionOf (entry :: rest) name = sectionOf [entry] name) ∨
      (sectionOf [entry] name = .null ∧
        sectionOf (entry :: rest) name = sectionOf rest name) := by
  simp only [sectionOf]
  rcases Value.lookup_cons_cases apart (.text name) with ⟨absent, same⟩ | ⟨absent, same⟩
  · rw [absent, same]
    exact Or.inl ⟨rfl, rfl⟩
  · rw [absent, same]
    exact Or.inr ⟨rfl, rfl⟩

/-- What holds of a section of a file, and of none, holds of the section of each part. -/
theorem sectionOf_parts (property : Value → Prop) {entry : Value × Value}
    (apart : ∀ other ∈ rest, entry.1.sameKey other.1 = false) (none : property .null)
    (holds : property (sectionOf (entry :: rest) name)) :
    property (sectionOf [entry] name) ∧ property (sectionOf rest name) := by
  rcases sectionOf_cons_cases apart name with ⟨absent, same⟩ | ⟨absent, same⟩
  · rw [absent, ← same]
    exact ⟨holds, none⟩
  · rw [absent, ← same]
    exact ⟨none, holds⟩

theorem IsDocument.apart {entry : Value × Value} (document : IsDocument (entry :: rest)) :
    ∀ other ∈ rest, entry.1.sameKey other.1 = false :=
  (List.pairwise_cons.mp document.distinct).1

theorem IsDocument.parts {entry : Value × Value} (document : IsDocument (entry :: rest)) :
    IsDocument [entry] ∧ IsDocument rest := by
  have apart := document.apart
  have distinctRest := (List.pairwise_cons.mp document.distinct).2
  rcases List.forall_mem_cons.mp document.known with ⟨known, knownRest⟩
  rcases sectionOf_parts (fun value => HasDistinctKeys (knownEntries value)) apart
    List.Pairwise.nil document.severities with ⟨one, others⟩
  rcases sectionOf_parts (fun value => HasDistinctKeys (knownEntries value)) apart
    List.Pairwise.nil document.rules with ⟨oneRules, otherRules⟩
  rcases sectionOf_parts
    (fun value => ∀ entry ∈ knownEntries value, HasDistinctKeys (knownEntries entry.2)) apart
    (List.forall_mem_nil _) document.options with ⟨oneOptions, otherOptions⟩
  exact ⟨⟨List.forall_mem_singleton.mpr known, List.pairwise_singleton _ _, one, oneRules,
    oneOptions⟩, ⟨knownRest, distinctRest, others, otherRules, otherOptions⟩⟩

theorem AreSections.parts {entry : Value × Value} (sections : AreSections (entry :: rest))
    (apart : ∀ other ∈ rest, entry.1.sameKey other.1 = false) :
    AreSections [entry] ∧ AreSections rest := by
  have none : IsSection .null := Or.inl rfl
  rcases sectionOf_parts IsSection apart none sections.severities with ⟨one, others⟩
  rcases sectionOf_parts IsSection apart none sections.rules with ⟨oneRules, otherRules⟩
  rcases sectionOf_parts (fun value => ∀ entry ∈ knownEntries value, IsSection entry.2)
    apart (List.forall_mem_nil _) sections.options with ⟨oneOptions, otherOptions⟩
  exact ⟨⟨one, oneRules, oneOptions⟩, ⟨others, otherRules, otherOptions⟩⟩

/-- Fields that are laid over settings one after the other are laid over them at once. -/
theorem overlay_overlay {entry : Value × Value}
    (apart : ∀ other ∈ rest, entry.1.sameKey other.1 = false) :
    overlay (overlay base [entry]) rest = overlay base (entry :: rest) := by
  have plain : ∀ (key : Value) (old : Value),
      (Value.lookup rest key).getD ((Value.lookup [entry] key).getD old) =
        (Value.lookup (entry :: rest) key).getD old := by
    intro key old
    rcases Value.lookup_cons_cases apart key with ⟨absent, same⟩ | ⟨absent, same⟩
    · rw [absent, same]
      rfl
    · rw [absent, same]
      rfl
  rw [overlay, overlay, overlay]
  congr 1
  · exact plain _ _
  · exact plain _ _
  · exact plain _ _
  · rcases sectionOf_cons_cases apart "rule_severities" with ⟨absent, same⟩ | ⟨absent, same⟩
    · rw [absent, same]
      rfl
    · rw [absent, same]
      rfl
  · rcases sectionOf_cons_cases apart "rule_configs" with ⟨absent, same⟩ | ⟨absent, same⟩
    · rw [absent, same]
      rfl
    · rw [absent, same]
      rfl

theorem foldlM_mergeField {fields : List (String × Value)}
    (isEntries : entries = fields.map fun field => (.text field.1, field.2))
    (document : IsDocument entries) (sections : AreSections entries)
    (severities : ∃ own, base.severities = .map own) (options : ∃ own, base.options = .map own) :
    fields.foldlM (fun settings (name, value) => mergeField path settings name value) base =
      .ok (overlay base entries) := by
  induction fields generalizing base entries with
  | nil =>
      rcases severities with ⟨severities, isSeverities⟩
      rcases options with ⟨options, isOptions⟩
      rw [isEntries, overlay, isSeverities, isOptions]
      change Except.ok base =
        .ok { base with severities := .map severities, options := .map options }
      rw [← isSeverities, ← isOptions]
  | cons field rest ih =>
      rw [List.map_cons] at isEntries
      cases isEntries
      have apart := document.apart
      rcases document.parts with ⟨document, documentRest⟩
      rcases sections.parts apart with ⟨sections, sectionsRest⟩
      rw [List.foldlM_cons, bind_eq_ok_iff]
      refine ⟨_, mergeField_eq_overlay document sections severities options, ?_⟩
      rw [← overlay_overlay apart]
      exact ih rfl documentRest sectionsRest ⟨_, rfl⟩ ⟨_, rfl⟩

theorem knownFields_record {fields : List (String × Value)}
    (known : ∀ field ∈ fields, field.1 ∈ fieldNames) :
    knownFields path (fields.map fun field => (.text field.1, field.2)) = .ok fields := by
  have none : (((fields.map fun field => (Value.text field.1, field.2)).map Prod.fst).filter
      fun key => !fieldNames.any fun name => key.sameKey (.text name)) = [] := by
    rw [List.map_map, List.filter_eq_nil_iff]
    intro key member
    rcases List.mem_map.mp member with ⟨field, among, rfl⟩
    rw [Bool.not_eq_true, Bool.not_eq_false', List.any_eq_true]
    exact ⟨field.1, known field among, Value.sameKey_text field.1⟩
  simp only [knownFields]
  rw [none, List.isEmpty_nil, if_pos rfl, List.filterMap_map]
  exact congrArg Except.ok List.filterMap_some

theorem merge_record {fields : List (String × Value)}
    (known : ∀ field ∈ fields, field.1 ∈ fieldNames) :
    merge path (.record fields) =
      fields.foldlM (fun settings (name, value) => mergeField path settings name value)
        default := by
  cases fields with
  | nil => rfl
  | cons field rest =>
      change (knownFields path _ >>= _) = _
      rw [knownFields_record known]
      rfl

theorem IsDocument.exists_fields (document : IsDocument entries) :
    ∃ fields : List (String × Value),
      (∀ field ∈ fields, field.1 ∈ fieldNames) ∧
        entries = fields.map fun field => (.text field.1, field.2) := by
  have among : entries ∈ Set.range
      (List.map fun field : String × Value => (Value.text field.1, field.2)) := by
    rw [Set.range_list_map]
    rintro ⟨key, value⟩ member
    rcases document.known _ member with ⟨name, -, rfl⟩
    exact ⟨(name, value), rfl⟩
  rcases among with ⟨fields, rfl⟩
  refine ⟨fields, ?_, rfl⟩
  intro field member
  rcases document.known _ (List.mem_map_of_mem member) with ⟨name, isField, same⟩
  cases same
  exact isField

/-- Only sections that are mappings or null can be merged. -/
theorem areSections_of_merge {settings : Settings} (document : IsDocument entries)
    (ends : merge path (.map entries) = .ok settings) :
    AreSections entries := by
  rcases document.exists_fields with ⟨fields, known, rfl⟩
  change merge path (.record fields) = _ at ends
  rw [merge_record known] at ends
  have taken : ∀ {name : String} {value : Value},
      Value.lookup (fields.map fun field => (.text field.1, field.2)) (.text name) = some value →
        ∃ state next, mergeField path state name value = .ok next := by
    intro name value found
    rcases List.mem_map.mp (Value.mem_of_lookup_eq_some found) with ⟨field, member, same⟩
    cases same
    exact exists_step_of_foldlM ends member
  constructor
  · rw [sectionOf]
    cases found : Value.lookup _ (.text "rule_severities") with
    | none => exact Or.inl rfl
    | some value =>
        rcases taken found with ⟨state, next, ends⟩
        exact (mergeField_severities_eq_ok_iff.mp ends).1
  · rw [sectionOf]
    cases found : Value.lookup _ (.text "rule_configs") with
    | none => exact Or.inl rfl
    | some value =>
        rcases taken found with ⟨state, next, ends⟩
        exact (mergeField_options_eq_ok_iff.mp ends).1
  · intro entry member
    rw [sectionOf] at member
    cases found : Value.lookup _ (.text "rule_configs") with
    | none =>
        rw [found] at member
        cases member
    | some value =>
        rw [found] at member
        rcases taken found with ⟨state, next, ends⟩
        rcases mergeField_options_eq_ok_iff.mp ends with ⟨-, merged, folds, -⟩
        rcases exists_step_of_foldlM folds member with ⟨options, more, ends⟩
        exact (mergeOptions_eq_ok_iff.mp ends).1

end Giving

/-! ## Settings that are merged again -/

/-- Severities that are a mapping, and options that are a mapping of rules to mappings. -/
structure IsProper (settings : Settings) : Prop where
  severities : ∃ entries, settings.severities = .map entries ∧ HasDistinctKeys entries
  options : ∃ entries, settings.options = .map entries ∧ HasDistinctKeys entries ∧
    ∀ entry ∈ entries, ∃ own, entry.2 = .map own ∧ HasDistinctKeys own

/-- The options of one rule with the default ones filled in. -/
def fillRule (entry : Value × Value) : Value × Value :=
  (entry.1, .map (Value.fill (optionsIn defaultOptions entry.1) (knownEntries entry.2)))

/-- The settings with the defaults filled in where they have nothing of their own. -/
def filled (settings : Settings) : Settings :=
  { settings with
    severities := .map (Value.fill defaultSeverities (knownEntries settings.severities))
    options := .map (Value.fill defaultOptions
      ((knownEntries settings.options).map fillRule)) }

theorem isProper_of_isMerged {settings : Settings} (merged : IsMerged settings) :
    IsProper settings where
  severities := by
    rcases merged.severities with ⟨entries, isMap, isOver⟩
    exact ⟨entries, isMap, isOver.distinct⟩
  options := by
    rcases merged.options with ⟨entries, isMap, areMerged⟩
    refine ⟨entries, isMap, areMerged.rules.distinct, ?_⟩
    intro entry member
    rcases areMerged.each entry member with ⟨own, isOwn, isOver⟩
    exact ⟨own, isOwn, isOver.distinct⟩

/-- Settings with the fields as a file gives them, without a merge. -/
def asWritten (entries : List (Value × Value)) : Settings where
  enabledRules := (Value.lookup entries (.text "enabled_rules")).getD default.enabledRules
  maxFindings := (Value.lookup entries (.text "max_findings_per_file")).getD default.maxFindings
  threshold := (Value.lookup entries (.text "severity_threshold")).getD default.threshold
  severities := sectionOf entries "rule_severities"
  options := sectionOf entries "rule_configs"

/-- Merging a file fills in the defaults. -/
theorem merge_eq_filled (path : String) {entries : List (Value × Value)}
    (document : IsDocument entries) (sections : AreSections entries) :
    merge path (.map entries) = .ok (asWritten entries).filled := by
  have rules : HasDistinctKeys ((knownEntries (sectionOf entries "rule_configs")).map
      (overRule (knownEntries default.options))) :=
    List.pairwise_map.mpr document.rules
  have overlaid : overlay default entries = (asWritten entries).filled := by
    rw [overlay, Value.update_eq_fill document.severities, Value.update_eq_fill rules]
    rfl
  rcases document.exists_fields with ⟨fields, known, rfl⟩
  rw [← overlaid, ← foldlM_mergeField rfl document sections ⟨_, rfl⟩ ⟨_, rfl⟩]
  exact merge_record known

/-- Merging settings fills in the defaults. -/
theorem merge_toValue_eq_filled {settings : Settings} (proper : IsProper settings)
    (path : String) :
    merge path settings.toValue = .ok settings.filled := by
  rcases settings with ⟨enabledRules, maxFindings, threshold, _, _⟩
  rcases proper.severities with ⟨severities, rfl, distinctSeverities⟩
  rcases proper.options with ⟨options, rfl, distinctOptions, maps⟩
  refine merge_eq_filled path ⟨?_, ?_, distinctSeverities, distinctOptions, ?_⟩
    ⟨Or.inr ⟨_, rfl⟩, Or.inr ⟨_, rfl⟩, ?_⟩
  · intro entry member
    rcases List.mem_map.mp member with ⟨⟨name, value⟩, among, rfl⟩
    exact ⟨name, (List.of_mem_zip among).1, rfl⟩
  · exact Value.hasDistinctKeys_iff.mpr (by decide : (fieldNames.map Value.text).Pairwise _)
  · intro entry member
    rcases maps entry member with ⟨own, isOwn, distinctOwn⟩
    rw [isOwn]
    exact distinctOwn
  · intro entry member
    rcases maps entry member with ⟨own, isOwn, -⟩
    exact Or.inr ⟨own, isOwn⟩

theorem sameKey_of_mem_optionsIn (rule : Value) :
    ∀ entry ∈ optionsIn defaultOptions rule, entry.1.sameKey entry.1 = true := by
  intro entry member
  have known : defaultOptions = [(.text Rule.Naming.id, .record [("skip_kinds", .list [])])] := rfl
  rw [optionsIn, known, Value.lookup_cons] at member
  split at member
  · cases List.mem_singleton.mp member
    exact Value.sameKey_text _
  · cases member

/-- Merged settings have nothing to be filled in. -/
theorem filled_of_isMerged {settings : Settings} (merged : IsMerged settings) :
    settings.filled = settings := by
  rcases merged.severities with ⟨severities, isSeverities, overSeverities⟩
  rcases merged.options with ⟨options, isOptions, areMerged⟩
  have full : options.map fillRule = options := by
    refine (List.map_congr_left ?_).trans (List.map_id options)
    intro entry member
    rcases areMerged.each entry member with ⟨own, isOwn, isOver⟩
    rw [fillRule, isOwn, knownEntries,
      Value.fill_of_isOver isOver (sameKey_of_mem_optionsIn entry.1), ← isOwn]
    rfl
  rw [filled, isSeverities, isOptions, knownEntries, knownEntries, full,
    Value.fill_of_isOver overSeverities (by decide),
    Value.fill_of_isOver areMerged.rules (by decide), ← isSeverities, ← isOptions]

/-! ## What is filled in -/

/--
Settings with the defaults filled in: the plain fields stay, and a severity or an option is
the given one or else the default one.
-/
structure FillsIn (settings full : Settings) : Prop where
  enabledRules : full.enabledRules = settings.enabledRules
  maxFindings : full.maxFindings = settings.maxFindings
  threshold : full.threshold = settings.threshold
  severity : ∀ rule, Value.lookup (knownEntries full.severities) rule =
    (Value.lookup (knownEntries settings.severities) rule).or
      (Value.lookup defaultSeverities rule)
  rules : ∀ rule, (Value.lookup (knownEntries full.options) rule).isSome =
    ((Value.lookup (knownEntries settings.options) rule).isSome ||
      (Value.lookup defaultOptions rule).isSome)
  option : ∀ rule name,
    Value.lookup (optionsIn (knownEntries full.options) rule) name =
      (Value.lookup (optionsIn (knownEntries settings.options) rule) name).or
        (Value.lookup (optionsIn defaultOptions rule) name)

theorem lookup_map_fillRule (entries : List (Value × Value)) (rule : Value) :
    Value.lookup (entries.map fillRule) rule =
      (Value.lookup entries rule).map fun own =>
        .map (Value.fill (optionsIn defaultOptions rule) (knownEntries own)) := by
  induction entries with
  | nil => rfl
  | cons entry rest ih =>
      rw [List.map_cons, Value.lookup_cons, Value.lookup_cons, ih, fillRule]
      by_cases same : entry.1.sameKey rule = true
      · rw [if_pos same, if_pos same, Option.map_some, Value.eq_of_sameKey same]
      · rw [if_neg same, if_neg same]

theorem fillsIn_filled (settings : Settings) : FillsIn settings settings.filled where
  enabledRules := rfl
  maxFindings := rfl
  threshold := rfl
  severity _ := Value.lookup_fill _
  rules rule := by
    rw [filled, knownEntries, Value.lookup_fill, lookup_map_fillRule, Option.isSome_or,
      Option.isSome_map]
  option rule name := by
    rw [filled, knownEntries, optionsIn, Value.lookup_fill, lookup_map_fillRule,
      optionsIn.eq_def (knownEntries settings.options)]
    cases Value.lookup (knownEntries settings.options) rule with
    | none => rfl
    | some own => exact Value.lookup_fill _

end CasingLint.Settings
