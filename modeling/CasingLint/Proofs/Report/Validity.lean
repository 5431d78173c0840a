import CasingLint.Proofs.Schema
import CasingLint.Report.Document

/-!
# Which reports fit their schema

A report is written field by field, and its schema asks for each of these fields and allows no
other.  Most of what is written fits in any case: texts are texts, and the lines and columns of
an offset are never below their bounds, wherever the offset lies.  What remains to be asked of a
finding is `Finding.IsAdmissible`, and the main theorem says that nothing else is, for every
validator that goes by the keywords of the schemas.
-/

namespace CasingLint

open CasingLint.Number CasingLint.Text

/-! ## What a report may hold -/

/-- Details whose fields, where the naming rule has a use for them, are what it gives. -/
structure Finding.AreAdmissible (details : List (String × Value)) : Prop where
  texts : ∀ name ∈ ["kind", "original_name", "suggested_name"], ∀ value,
    details.lookup name = some value → ∃ content, value = .text content
  convention : ∀ value, details.lookup "convention" = some value →
    ∃ convention : Convention, value = .text convention.label

/-- A finding that a report may hold. -/
@[mk_iff]
structure Finding.IsAdmissible (finding : Finding) : Prop where
  rule : finding.rule ≠ ""
  start : 0 ≤ finding.start
  stop : 0 ≤ finding.stop
  severity : ∃ word ∈ ["info", "warn", "error"], finding.severity = .text word
  edits : ∀ edit ∈ finding.edits, 0 ≤ edit.start ∧ 0 ≤ edit.stop
  details : ∀ details, finding.details = some details → Finding.AreAdmissible details

/-- Is the value a number, or a truth value in its place, that is not below zero? -/
def Value.IsNonnegative : Value → Prop
  | .int number => 0 ≤ number
  | .float number => number.isNegative = false
  | .bool _ => True
  | _ => False

/-! ## Rounded times -/

namespace Number.Binary64

theorem isBelow_zero (number : Binary64) :
    number.isBelow 0 = number.isNegative := by
  cases number with
  | finite negative mantissa exponent =>
      rw [isBelow, isNegative]
      cases negative && decide (0 < mantissa) with
      | true => rfl
      | false => simp
  | infinite negative => rfl
  | nan => rfl

/-- The nearest number to a quotient that is not below zero is not below zero. -/
theorem isNegative_ofRatio (numerator denominator : Nat) :
    (ofRatio false numerator denominator).isNegative = false := by
  unfold ofRatio
  split
  · rfl
  · extract_lets exponent
    cases scaleDown numerator denominator exponent with
    | mk scaled unit =>
        dsimp only
        generalize (if roundDiv scaled unit = powerOfTwo 53 then (powerOfTwo 52, exponent + 1)
          else (roundDiv scaled unit, exponent)) = rounded
        split
        · rfl
        · rfl

theorem roundDiv_zero (denominator : Nat) :
    roundDiv 0 denominator = 0 := by
  simp [roundDiv]

/-- Rounding leads to no number below zero from one that is not. -/
theorem isNegative_toHundredths {number : Binary64} (above : number.isNegative = false) :
    number.toHundredths.isNegative = false := by
  cases number with
  | finite negative mantissa exponent =>
      cases negative with
      | false => exact isNegative_ofRatio _ _
      | true =>
          -- The only number with this sign that is not below zero is a zero, and it stays one.
          have none : mantissa = 0 := by
            simpa [isNegative] using above
          have zero : (ratio 0 exponent).1 * 100 = 0 := by
            rw [ratio]
            split
            · rfl
            · rw [Nat.zero_mul, Nat.zero_mul]
          have stays : (finite true 0 exponent).toHundredths =
              ofRatio true (roundDiv ((ratio 0 exponent).1 * 100) (ratio 0 exponent).2) 100 := rfl
          rw [none, stays, zero, roundDiv_zero]
          rfl
  | infinite negative => exact above
  | nan => exact above

end Number.Binary64

namespace Report

open CasingLint.Schema (Validator)

section Reports

variable {validate : Validator}

/-! ## Texts and numbers -/

theorem passes_text (standard : validate.IsStandardOn schemas) (content : String) :
    validate.passes Schema.text (.text content) = true := by
  rw [standard.passes_eq_meets (by simp [schemas]), Schema.meets_text]
  rfl

theorem passes_text_iff (standard : validate.IsStandardOn schemas) {value : Value} :
    validate.passes Schema.text value = true ↔ ∃ content, value = .text content := by
  rw [standard.passes_eq_meets (by simp [schemas]), Schema.meets_text]
  cases value with
  | text content => simp [Schema.isText]
  | _ => simp [Schema.isText]

/-- An offset or a number of things is passed if it is not below zero. -/
theorem passes_whole_iff (standard : validate.IsStandardOn schemas) {number : Int} :
    validate.passes (Schema.whole 0) (.int number) = true ↔ 0 ≤ number := by
  rw [standard.passes_eq_meets (by simp [schemas]), Schema.meets_whole]
  simp [Schema.isWhole, Schema.isBelow]

theorem passes_line (standard : validate.IsStandardOn schemas) (number : Nat) :
    validate.passes (Schema.whole 1) (.ofNat (number + 1)) = true := by
  rw [standard.passes_eq_meets (by simp [schemas]), Schema.meets_whole]
  simp only [Schema.isWhole, Schema.isBelow, Value.ofNat, Bool.true_and, Bool.not_eq_true',
    decide_eq_false_iff_not]
  omega

theorem passes_oneOf_iff (standard : validate.IsStandardOn schemas) {options : List String}
    (listed : Schema.oneOf options ∈ schemas) {value : Value} :
    validate.passes (Schema.oneOf options) value = true ↔
      ∃ option ∈ options, value = .text option := by
  have same (option : String) :
      (Value.text option).sameKey value = true ↔ value = .text option := by
    constructor
    · intro same
      exact (Value.eq_of_sameKey same).symm
    · rintro rfl
      exact Value.sameKey_text option
  rw [standard.passes_eq_meets listed, Schema.meets_oneOf, List.any_eq_true]
  simp only [same]

theorem passes_roundedTime (standard : validate.IsStandardOn schemas) {time : Value}
    (nonnegative : time.IsNonnegative) :
    validate.passes Schema.amount (roundedTime time) = true := by
  rw [standard.passes_eq_meets (by simp [schemas]), Schema.meets_amount]
  cases time with
  | int number =>
      have above : 0 ≤ number := nonnegative
      simpa [roundedTime, Schema.isNumber, Schema.isBelow] using above
  | float number =>
      have above := Binary64.isNegative_toHundredths nonnegative
      rw [← Binary64.isBelow_zero] at above
      simp [roundedTime, Schema.isNumber, Schema.isBelow, above]
  | bool truth =>
      cases truth with
      | true => rfl
      | false => rfl
  | _ => exact nonnegative.elim

/-! ## Findings -/

/-- The place of an offset is a place, wherever the offset lies. -/
theorem passes_rangeValue (standard : validate.IsStandardOn schemas) (text : String)
    (start stop : Int) :
    validate.passes rangeSchema (rangeValue text start stop) = true := by
  have line (offset : Int) :
      validate.passes (Schema.whole 1) (.ofNat (Position.ofOffset text offset).line) = true :=
    passes_line standard _
  have column (offset : Int) :
      validate.passes (Schema.whole 0) (.ofNat (Position.ofOffset text offset).column) = true :=
    (passes_whole_iff standard).mpr (Int.natCast_nonneg _)
  rw [standard.passes_eq_meets (by simp [schemas]), rangeSchema, rangeValue,
    Schema.meets_closed_record_iff]
  simp [List.lookup_cons, line, column]

theorem passes_editValue_iff (standard : validate.IsStandardOn schemas) {path text : String}
    {edit : Edit} :
    validate.passes editSchema (editValue path text edit) = true ↔
      0 ≤ edit.start ∧ 0 ≤ edit.stop := by
  rw [standard.passes_eq_meets (by simp [schemas]), editSchema, editValue,
    Schema.meets_closed_record_iff]
  simp [List.lookup_cons, passes_text standard, passes_whole_iff standard,
    passes_rangeValue standard]

theorem passes_edits_iff (standard : validate.IsStandardOn schemas) {path text : String}
    {edits : List Edit} :
    validate.passes (Schema.listOf editSchema) (.list (edits.map (editValue path text))) = true ↔
      ∀ edit ∈ edits, 0 ≤ edit.start ∧ 0 ≤ edit.stop := by
  rw [standard.passes_eq_meets (by simp [schemas]), Schema.meets_listOf, List.all_map,
    List.all_eq_true]
  simp only [Function.comp_apply, passes_editValue_iff standard]

theorem passes_details_iff (standard : validate.IsStandardOn schemas)
    {details : List (String × Value)} :
    validate.passes detailsSchema (.record details) = true ↔ Finding.AreAdmissible details := by
  have convention {value : Value} : validate.passes conventionSchema value = true ↔
      ∃ convention : Convention, value = .text convention.label := by
    rw [conventionSchema, passes_oneOf_iff standard (by simp [schemas, conventionSchema])]
    simp [Convention.mem_all]
  rw [standard.passes_eq_meets (by simp [schemas]), detailsSchema,
    Schema.meets_extensible_record_iff]
  simp only [List.forall_mem_cons, passes_text_iff standard, convention]
  constructor
  · rintro ⟨kind, convention, original, suggested, -⟩
    refine ⟨?_, convention⟩
    simp only [List.forall_mem_cons]
    exact ⟨kind, original, suggested, List.forall_mem_nil _⟩
  · rintro ⟨texts, convention⟩
    simp only [List.forall_mem_cons] at texts
    rcases texts with ⟨kind, original, suggested, -⟩
    exact ⟨kind, convention, original, suggested, List.forall_mem_nil _⟩

section Optional

variable {α : Type} {name other : String} {write : List α → Value} {items? : Option (List α)}

theorem lookup_optionalField_of_ne (different : other ≠ name) :
    (optionalField name write items?).lookup other = none := by
  cases items? with
  | none => rfl
  | some items =>
      cases items with
      | nil => rfl
      | cons first rest =>
          rw [optionalField, List.lookup_cons, beq_false_of_ne different]
          · rfl
          · exact List.cons_ne_nil first rest

theorem forall_lookup_optionalField_iff {holds : Value → Prop} :
    (∀ value, (optionalField name write items?).lookup name = some value → holds value) ↔
      ∀ items, items? = some items → items ≠ [] → holds (write items) := by
  cases items? with
  | none => simp [optionalField]
  | some items =>
      cases items with
      | nil => simp [optionalField]
      | cons first rest => simp [optionalField]

theorem eq_of_mem_optionalField
    (member : other ∈ (optionalField name write items?).map Prod.fst) :
    other = name := by
  cases items? with
  | none => contradiction
  | some items =>
      cases items with
      | nil => contradiction
      | cons first rest => exact List.mem_singleton.mp member

end Optional

theorem forall_mem_edits_iff {finding : Finding} {holds : Edit → Prop} :
    (∀ edit ∈ finding.edits, holds edit) ↔
      ∀ edits, finding.autofix = some edits → edits ≠ [] → ∀ edit ∈ edits, holds edit := by
  rw [Finding.edits]
  cases finding.autofix with
  | none => simp
  | some edits =>
      cases edits with
      | nil => simp
      | cons first rest => simp

theorem forall_details_iff {finding : Finding} :
    (∀ details, finding.details = some details → Finding.AreAdmissible details) ↔
      ∀ details, finding.details = some details → details ≠ [] →
        Finding.AreAdmissible details := by
  constructor
  · intro each details held _
    exact each details held
  · intro each details held
    cases details with
    | nil =>
        constructor
        · intro _ _ _ impossible
          contradiction
        · intro _ impossible
          contradiction
    | cons first rest => exact each _ held (List.cons_ne_nil first rest)

theorem passes_rule_iff (standard : validate.IsStandardOn schemas) {rule : String} :
    validate.passes Schema.nonempty (.text rule) = true ↔ rule ≠ "" := by
  rw [standard.passes_eq_meets (by simp [schemas]), Schema.meets_nonempty, decide_eq_true_iff]

theorem passes_file (standard : validate.IsStandardOn schemas) (path : String) :
    validate.passes pathSchema (.text path) = true ∧
      validate.passes uriSchema (.text path) = true := by
  constructor
  · rw [standard.passes_eq_meets (by simp [schemas]), pathSchema, Schema.meets_described]
    rfl
  · rw [standard.passes_eq_meets (by simp [schemas]), uriSchema, Schema.meets_described]
    rfl

theorem passes_severity_iff (standard : validate.IsStandardOn schemas) {severity : Value} :
    validate.passes severitySchema severity = true ↔
      ∃ word ∈ ["info", "warn", "error"], severity = .text word :=
  passes_oneOf_iff standard (by simp [schemas, severitySchema])

/-- The entry for a finding is passed exactly if the finding is admissible. -/
theorem passes_findingValue_iff (standard : validate.IsStandardOn schemas) {directory : String}
    {texts : Texts} {finding : Finding} :
    validate.passes findingSchema (findingValue directory texts finding) = true ↔
      finding.IsAdmissible := by
  rw [standard.passes_eq_meets (by simp [schemas]), findingSchema, findingValue,
    Schema.meets_closed_record_iff]
  refine Iff.trans ⟨fun fits => fits.1, fun fields => ⟨fields, ?complete, ?known⟩⟩ ?fields
  case complete => simp [List.lookup_cons]
  case known =>
    intro name member
    rw [List.map_append, List.map_append, List.mem_append, List.mem_append] at member
    rcases member with (required | fix) | details
    · exact List.mem_append_left ["autofix", "meta"] required
    · rw [eq_of_mem_optionalField fix]
      decide
    · rw [eq_of_mem_optionalField details]
      decide
  case fields =>
    rw [Finding.isAdmissible_iff, forall_mem_edits_iff, forall_details_iff]
    simp [List.lookup_append, List.lookup_cons, lookup_optionalField_of_ne,
      forall_lookup_optionalField_iff, passes_text standard, passes_rule_iff standard,
      passes_file standard, passes_whole_iff standard, passes_severity_iff standard,
      passes_rangeValue standard, passes_edits_iff standard, passes_details_iff standard]

theorem validate_eq_none_iff {schema value : Value} :
    validate schema value = none ↔ validate.passes schema value = true :=
  Option.isNone_iff_eq_none.symm

theorem findingErrors_eq_nil_iff {entries : List Value} :
    findingErrors validate entries = [] ↔
      ∀ entry ∈ entries, validate findingSchema entry = none := by
  simp only [findingErrors, List.flatten_eq_nil_iff, List.mem_mapIdx]
  constructor
  · intro each entry member
    rcases List.getElem_of_mem member with ⟨index, bound, rfl⟩
    simpa using each _ ⟨index, bound, rfl⟩
  · rintro each _ ⟨index, bound, rfl⟩
    rw [each _ (List.getElem_mem bound)]
    rfl

/-! ## Whole reports -/

theorem passes_metrics_iff (standard : validate.IsStandardOn schemas)
    {parse rules total : Value} :
    validate.passes metricsSchema
        (.record [("parse_ms", parse), ("rules_ms", rules), ("total_ms", total)]) = true ↔
      validate.passes Schema.amount parse = true ∧ validate.passes Schema.amount rules = true ∧
        validate.passes Schema.amount total = true := by
  rw [standard.passes_eq_meets (by simp [schemas]), metricsSchema, Schema.meets_closed_record_iff]
  simp [List.lookup_cons]

/-- A report is passed if its entries, its numbers and its rounded times are. -/
theorem passes_document_iff (standard : validate.IsStandardOn schemas) {entries : List Value}
    {filesScanned rulesRun : Int} {metrics : Metrics} :
    validate.passes documentSchema (document entries filesScanned rulesRun metrics) = true ↔
      0 ≤ filesScanned ∧ 0 ≤ rulesRun ∧
        (∀ entry ∈ entries, validate.passes findingSchema entry = true) ∧
        ∀ time ∈ [metrics.parse, metrics.rules, metrics.total],
          validate.passes Schema.amount (roundedTime time) = true := by
  have version : validate.passes (Schema.exactly protocolVersion) (.text protocolVersion) =
      true := by
    rw [standard.passes_eq_meets (by simp [schemas]), Schema.meets_exactly]
    exact beq_self_eq_true protocolVersion
  have findings : validate.passes (Schema.listOf findingSchema) (.list entries) = true ↔
      ∀ entry ∈ entries, validate.passes findingSchema entry = true := by
    rw [standard.passes_eq_meets (by simp [schemas]), Schema.meets_listOf, List.all_eq_true]
  rw [standard.passes_eq_meets (by simp [schemas]), documentSchema, document,
    Schema.meets_closed_record_iff]
  simp [List.lookup_cons, version, passes_text standard, passes_whole_iff standard, findings,
    passes_metrics_iff standard]

theorem documentErrors_eq_nil_iff {value : Value} :
    documentErrors validate value = [] ↔ validate documentSchema value = none := by
  rw [documentErrors, List.map_eq_nil_iff, Option.toList_eq_nil_iff]

/--
The entry for a finding is passed exactly if the finding is admissible, whatever is known of its
file.  A report with numbers and times that are not below zero is passed exactly if all its
entries are.  So it is with every validator that goes by the keywords of the schemas.
-/
theorem check_eq_none_iff_isAdmissible (standard : validate.IsStandardOn schemas)
    (directory : String) (texts : Texts) (findings : List Finding) :
    (∀ finding, validate findingSchema (findingValue directory texts finding) = none ↔
        finding.IsAdmissible) ∧
      (findingErrors validate (findingValues directory texts findings) = [] ↔
        ∀ finding ∈ findings, finding.IsAdmissible) ∧
      ∀ entries filesScanned rulesRun metrics, 0 ≤ filesScanned → 0 ≤ rulesRun →
        (∀ time ∈ [metrics.parse, metrics.rules, metrics.total], time.IsNonnegative) →
          (documentErrors validate (document entries filesScanned rulesRun metrics) = [] ↔
            ∀ entry ∈ entries, validate findingSchema entry = none) := by
  refine ⟨?_, ?_, ?_⟩
  · intro finding
    rw [validate_eq_none_iff, passes_findingValue_iff standard]
  · rw [findingErrors_eq_nil_iff, findingValues, List.forall_mem_map]
    simp only [validate_eq_none_iff, passes_findingValue_iff standard]
  · intro entries filesScanned rulesRun metrics files rules times
    have rounded : ∀ time ∈ [metrics.parse, metrics.rules, metrics.total],
        validate.passes Schema.amount (roundedTime time) = true :=
      fun time member => passes_roundedTime standard (times time member)
    simp only [documentErrors_eq_nil_iff, validate_eq_none_iff, passes_document_iff standard]
    constructor
    · rintro ⟨-, -, each, -⟩
      exact each
    · intro each
      exact ⟨files, rules, each, rounded⟩

end Reports

end Report

namespace Sample

/-- A finding for a span that starts inside a character and ends behind the text. -/
def strayFinding : Finding where
  rule := "naming.conventions"
  message := ""
  file := "a.cs"
  start := 1
  stop := 99
  severity := .text "error"
  autofix := some [⟨1, 99, "É"⟩]
  details := some
    [("kind", .text "class"), ("convention", .text "IUpperCamelCase"), ("size", .null)]

/-- Times with a zero below which there is none, and with one that is rounded. -/
def oddMetrics : Report.Metrics where
  parse := .float (.finite true 0 0)
  rules := .float (.finite false 1 (-8))
  total := .int 3

end Sample

namespace Report

/-- A report is passed with a finding whose span is no part of its file. -/
theorem check_eq_none_iff_isAdmissible_stray :
    (∀ time ∈ [Sample.oddMetrics.parse, Sample.oddMetrics.rules, Sample.oddMetrics.total],
        time.IsNonnegative) ∧
      Schema.walker.IsStandardOn schemas ∧ Sample.strayFinding.IsAdmissible ∧
      documentErrors Schema.walker
        (document (findingValues "/" [("/a.cs", "é\n")] [Sample.strayFinding]) 1 0
          Sample.oddMetrics) = [] := by
  have times : ∀ time ∈ [Sample.oddMetrics.parse, Sample.oddMetrics.rules,
      Sample.oddMetrics.total], time.IsNonnegative := by
    simp [Sample.oddMetrics, Value.IsNonnegative, Binary64.isNegative]
  have admissible : Sample.strayFinding.IsAdmissible := by
    refine ⟨by decide, by decide, by decide, ⟨"error", by decide, rfl⟩, by decide, ?_⟩
    rintro _ ⟨⟩
    constructor
    · simp [List.lookup_cons]
    · rintro _ ⟨⟩
      exact ⟨.interfaceUpperCamel, rfl⟩
  have standard := Schema.isStandardOn_walker schemas
  rcases check_eq_none_iff_isAdmissible standard "/" [("/a.cs", "é\n")] [Sample.strayFinding] with
    ⟨each, -, whole⟩
  refine ⟨times, standard, admissible, (whole _ 1 0 _ (by decide) (by decide) times).mpr ?_⟩
  intro entry member
  rw [findingValues, List.map_singleton, List.mem_singleton] at member
  rw [member]
  exact (each Sample.strayFinding).mpr admissible

end Report

end CasingLint
