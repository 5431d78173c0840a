import CasingLint.Proofs.Value.Mapping
import CasingLint.Schema
import Mathlib.Data.List.Basic

/-!
# What the keywords of schemas ask for

A validator is a program of its own.  What this library relies on is the meaning of the
keywords: each asks something of a value, whatever the others ask, and a value that meets
them all is passed.  `Validator.IsStandardOn` says so, keyword by keyword, for the schemas
of a list.  From it follows for each kind of schema which values are passed.
-/

namespace CasingLint

/-- The entries of a record are found by their names. -/
theorem Value.lookup_record (fields : List (String × Value)) (name : String) :
    lookup (fields.map fun field => (text field.1, field.2)) (.text name) = fields.lookup name := by
  induction fields with
  | nil => rfl
  | cons field rest ih =>
      rw [List.map_cons, lookup_cons, ih, List.lookup_cons, sameKey, BEq.comm]
      cases name == field.1 with
      | true => rfl
      | false => rfl

@[simp]
theorem Value.field?_record (fields : List (String × Value)) (name : String) :
    (record fields).field? name = fields.lookup name :=
  lookup_record fields name

namespace Schema

/-! ## Types and bounds -/

/-- Is the value a text? -/
def isText : Value → Bool
  | .text _ => true
  | _ => false

/-- Is the value a number? Truth values are none. -/
def isNumber : Value → Bool
  | .int _ => true
  | .float _ => true
  | _ => false

/-- Is the value a whole number? One written with a point may be. -/
def isWhole : Value → Bool
  | .int _ => true
  | .float number => number.isWhole
  | _ => false

/-- Is the value a list? -/
def isList : Value → Bool
  | .list _ => true
  | _ => false

/-- Is the value a mapping? -/
def isMap : Value → Bool
  | .map _ => true
  | _ => false

/-- Is the value of the type of this name? -/
def hasType (value : Value) : String → Bool
  | "string" => isText value
  | "integer" => isWhole value
  | "number" => isNumber value
  | "array" => isList value
  | "object" => isMap value
  | _ => false

/-- Is the value a number below a natural number? -/
def isBelow (bound : Nat) : Value → Bool
  | .int number => decide (number < bound)
  | .float number => number.isBelow bound
  | _ => false

/-! ## Keywords -/

section Keywords

variable (passes : (schema value : Value) → Bool) (schema value : Value)

/-- `type` names the type of the value. -/
def meetsType : Bool :=
  match schema.field? "type" with
  | some (.text name) => hasType value name
  | _ => true

/-- `minimum` is a bound for numbers. -/
def meetsMinimum : Bool :=
  match schema.field? "minimum" with
  | some (.int (.ofNat bound)) => !isBelow bound value
  | _ => true

/-- `minLength` is a bound for the number of characters of a text. -/
def meetsMinLength : Bool :=
  match schema.field? "minLength", value with
  | some (.int least), .text content => decide (least ≤ content.length)
  | _, _ => true

/-- `enum` lists all values. -/
def meetsEnum : Bool :=
  match schema.field? "enum" with
  | some (.list options) => options.any fun option => option.sameKey value
  | _ => true

/-- `const` is the only value. -/
def meetsConst : Bool :=
  match schema.field? "const" with
  | some only => only.sameKey value
  | _ => true

/-- `items` is a schema for the items of a list. -/
def meetsItems : Bool :=
  match schema.field? "items", value with
  | some inner, .list items => items.all fun item => passes inner item
  | _, _ => true

/-- `properties` has a schema for each field that a mapping may have. -/
def meetsProperties : Bool :=
  match schema.field? "properties", value with
  | some (.map properties), .map entries =>
    properties.all fun property =>
      match Value.lookup entries property.1 with
      | some field => passes property.2 field
      | none => true
  | _, _ => true

/-- `required` names fields that a mapping must have. -/
def meetsRequired : Bool :=
  match schema.field? "required", value with
  | some (.list names), .map entries => names.all fun name => (Value.lookup entries name).isSome
  | _, _ => true

/-- `additionalProperties` can forbid all fields that `properties` does not have. -/
def meetsAdditionalProperties : Bool :=
  match schema.field? "additionalProperties", schema.field? "properties", value with
  | some (.bool false), some (.map properties), .map entries =>
    entries.all fun entry => (Value.lookup properties entry.1).isSome
  | _, _, _ => true

/-- Does the value meet all keywords of the schema? -/
def meets : Bool :=
  meetsType schema value && meetsMinimum schema value && meetsMinLength schema value &&
    meetsEnum schema value && meetsConst schema value && meetsItems passes schema value &&
    meetsProperties passes schema value && meetsRequired schema value &&
    meetsAdditionalProperties schema value

end Keywords

/-! ## Keywords that a schema does not have -/

section Absent

variable {passes : (schema value : Value) → Bool} {schema value : Value}

@[simp]
theorem meetsType_of_absent (absent : schema.field? "type" = none) :
    meetsType schema value = true := by
  unfold meetsType
  rw [absent]

@[simp]
theorem meetsMinimum_of_absent (absent : schema.field? "minimum" = none) :
    meetsMinimum schema value = true := by
  unfold meetsMinimum
  rw [absent]

@[simp]
theorem meetsMinLength_of_absent (absent : schema.field? "minLength" = none) :
    meetsMinLength schema value = true := by
  unfold meetsMinLength
  rw [absent]

@[simp]
theorem meetsEnum_of_absent (absent : schema.field? "enum" = none) :
    meetsEnum schema value = true := by
  unfold meetsEnum
  rw [absent]

@[simp]
theorem meetsConst_of_absent (absent : schema.field? "const" = none) :
    meetsConst schema value = true := by
  unfold meetsConst
  rw [absent]

@[simp]
theorem meetsItems_of_absent (absent : schema.field? "items" = none) :
    meetsItems passes schema value = true := by
  unfold meetsItems
  rw [absent]

@[simp]
theorem meetsProperties_of_absent (absent : schema.field? "properties" = none) :
    meetsProperties passes schema value = true := by
  unfold meetsProperties
  rw [absent]

@[simp]
theorem meetsRequired_of_absent (absent : schema.field? "required" = none) :
    meetsRequired schema value = true := by
  unfold meetsRequired
  rw [absent]

@[simp]
theorem meetsAdditionalProperties_of_absent
    (absent : schema.field? "additionalProperties" = none) :
    meetsAdditionalProperties schema value = true := by
  unfold meetsAdditionalProperties
  rw [absent]

end Absent

/-! ## Schemas of some kinds -/

section Kinds

variable {passes : (schema value : Value) → Bool} {schema value : Value}
  {properties fields : List (String × Value)} {required : List String}

theorem meets_text : meets passes text value = isText value := by
  simp [meets, text, List.lookup_cons, meetsType, hasType]

theorem meets_described (description : String) :
    meets passes (described description) value = isText value := by
  simp [meets, described, List.lookup_cons, meetsType, hasType]

theorem meets_nonempty (content : String) :
    meets passes nonempty (.text content) = decide (content ≠ "") := by
  have least : (1 : Int) ≤ content.length ↔ content ≠ "" := by
    rw [ne_eq, ← String.length_eq_zero_iff]
    omega
  simp [meets, nonempty, List.lookup_cons, meetsType, hasType, isText, meetsMinLength, least]

theorem meets_whole (minimum : Nat) :
    meets passes (whole minimum) value = (isWhole value && !isBelow minimum value) := by
  simp [meets, whole, List.lookup_cons, meetsType, hasType, meetsMinimum, Value.ofNat]

theorem meets_amount :
    meets passes amount value = (isNumber value && !isBelow 0 value) := by
  simp [meets, amount, List.lookup_cons, meetsType, hasType, meetsMinimum]

theorem meets_oneOf (options : List String) :
    meets passes (oneOf options) value =
      options.any fun option => (Value.text option).sameKey value := by
  simp [meets, oneOf, List.lookup_cons, meetsEnum, Function.comp_def]

theorem meets_exactly (content : String) :
    meets passes (exactly content) value = (Value.text content).sameKey value := by
  simp [meets, exactly, List.lookup_cons, meetsConst]

theorem meets_listOf (items : Value) (values : List Value) :
    meets passes (listOf items) (.list values) = values.all (passes items) := by
  simp [meets, listOf, List.lookup_cons, meetsType, hasType, isList, meetsItems]

theorem meetsProperties_record_iff
    (held : schema.field? "properties" = some (.record properties)) :
    meetsProperties passes schema (.record fields) = true ↔
      ∀ property ∈ properties, ∀ value,
        fields.lookup property.1 = some value → passes property.2 value = true := by
  unfold meetsProperties
  rw [held]
  simp only [Value.record, List.all_map, List.all_eq_true]
  refine forall_congr' fun property => imp_congr_right fun _ => ?_
  rw [Function.comp_apply, Value.lookup_record]
  cases fields.lookup property.1 with
  | none => simp
  | some field => simp

theorem meetsRequired_record_iff
    (held : schema.field? "required" = some (.list (required.map .text))) :
    meetsRequired schema (.record fields) = true ↔
      ∀ name ∈ required, (fields.lookup name).isSome = true := by
  unfold meetsRequired
  rw [held]
  simp only [Value.record, List.all_map, List.all_eq_true, Function.comp_apply,
    Value.lookup_record]

theorem meetsAdditionalProperties_record_iff
    (forbids : schema.field? "additionalProperties" = some (.bool false))
    (held : schema.field? "properties" = some (.record properties)) :
    meetsAdditionalProperties schema (.record fields) = true ↔
      ∀ name ∈ fields.map Prod.fst, name ∈ properties.map Prod.fst := by
  have known (name : String) :
      (properties.lookup name).isSome = true ↔ name ∈ properties.map Prod.fst := by
    simp only [List.lookup_isSome_iff, List.mem_map, beq_iff_eq]
    exact exists_congr fun property => and_congr_right fun _ => eq_comm
  unfold meetsAdditionalProperties
  rw [forbids, held, List.forall_mem_map]
  simp only [Value.record, List.all_map, List.all_eq_true, Function.comp_apply,
    Value.lookup_record, known]

theorem meets_extensible_record_iff :
    meets passes (extensible properties) (.record fields) = true ↔
      ∀ property ∈ properties, ∀ value,
        fields.lookup property.1 = some value → passes property.2 value = true := by
  rw [← @meetsProperties_record_iff passes (extensible properties) properties fields rfl]
  have isMapping : meetsType (extensible properties) (.record fields) = true := rfl
  simp only [meets, isMapping]
  simp [extensible, List.lookup_cons]

/-- A record meets a closed schema if its fields do, none is missing and none is unknown. -/
theorem meets_closed_record_iff :
    meets passes (closed properties required) (.record fields) = true ↔
      (∀ property ∈ properties, ∀ value,
        fields.lookup property.1 = some value → passes property.2 value = true) ∧
        (∀ name ∈ required, (fields.lookup name).isSome = true) ∧
        ∀ name ∈ fields.map Prod.fst, name ∈ properties.map Prod.fst := by
  rw [← @meetsProperties_record_iff passes (closed properties required) properties fields rfl,
    ← @meetsRequired_record_iff (closed properties required) fields required rfl,
    ← @meetsAdditionalProperties_record_iff (closed properties required) properties fields rfl rfl]
  have isMapping : meetsType (closed properties required) (.record fields) = true := rfl
  simp only [meets, isMapping]
  simp [closed, List.lookup_cons, and_assoc]

end Kinds

/-! ## Validators that go by the keywords -/

/-- Does the validator have no complaint about the value? -/
def Validator.passes (validate : Validator) (schema value : Value) : Bool :=
  (validate schema value).isNone

/--
A validator that goes by the keywords of the schemas of a list: a value that is passed meets
each of them, and nothing else is asked of it.
-/
structure Validator.IsStandardOn (validate : Validator) (schemas : List Value) : Prop where
  type : ∀ schema ∈ schemas, ∀ value, validate.passes schema value = true →
    meetsType schema value = true
  minimum : ∀ schema ∈ schemas, ∀ value, validate.passes schema value = true →
    meetsMinimum schema value = true
  minLength : ∀ schema ∈ schemas, ∀ value, validate.passes schema value = true →
    meetsMinLength schema value = true
  enum : ∀ schema ∈ schemas, ∀ value, validate.passes schema value = true →
    meetsEnum schema value = true
  const : ∀ schema ∈ schemas, ∀ value, validate.passes schema value = true →
    meetsConst schema value = true
  items : ∀ schema ∈ schemas, ∀ value, validate.passes schema value = true →
    meetsItems validate.passes schema value = true
  properties : ∀ schema ∈ schemas, ∀ value, validate.passes schema value = true →
    meetsProperties validate.passes schema value = true
  required : ∀ schema ∈ schemas, ∀ value, validate.passes schema value = true →
    meetsRequired schema value = true
  additionalProperties : ∀ schema ∈ schemas, ∀ value, validate.passes schema value = true →
    meetsAdditionalProperties schema value = true
  nothingElse : ∀ schema ∈ schemas, ∀ value, meets validate.passes schema value = true →
    validate.passes schema value = true

namespace Validator.IsStandardOn

variable {validate : Validator} {schemas : List Value}

theorem passes_eq_meets (standard : validate.IsStandardOn schemas) {schema : Value}
    (listed : schema ∈ schemas) (value : Value) :
    validate.passes schema value = meets validate.passes schema value := by
  apply Bool.eq_iff_iff.mpr
  constructor
  · intro passed
    simp only [meets, Bool.and_eq_true]
    exact ⟨⟨⟨⟨⟨⟨⟨⟨standard.type schema listed value passed,
      standard.minimum schema listed value passed⟩, standard.minLength schema listed value passed⟩,
      standard.enum schema listed value passed⟩, standard.const schema listed value passed⟩,
      standard.items schema listed value passed⟩, standard.properties schema listed value passed⟩,
      standard.required schema listed value passed⟩,
      standard.additionalProperties schema listed value passed⟩
  · exact standard.nothingElse schema listed value

end Validator.IsStandardOn

/-! ## The keywords as a validator -/

/-- How deep mappings are nested in a schema. -/
def depth : Value → Nat
  | .map entries => below entries + 1
  | _ => 0
where
  /-- How deep mappings are nested in the values of entries. -/
  below : List (Value × Value) → Nat
    | [] => 0
    | (_, value) :: rest => max (depth value) (below rest)

theorem depth_lt_of_mem {entries : List (Value × Value)} {entry : Value × Value}
    (member : entry ∈ entries) :
    depth entry.2 < depth (.map entries) := by
  have bounded : depth entry.2 ≤ depth.below entries := by
    induction entries with
    | nil => contradiction
    | cons first rest ih =>
        rw [depth.below]
        rcases List.mem_cons.mp member with rfl | among
        · exact Nat.le_max_left _ _
        · exact Nat.le_trans (ih among) (Nat.le_max_right _ _)
  rw [depth]
  exact Nat.lt_succ_of_le bounded

theorem depth_lt_of_field? {schema inner : Value} {name : String}
    (held : schema.field? name = some inner) :
    depth inner < depth schema := by
  cases schema with
  | map entries => exact depth_lt_of_mem (Value.mem_of_lookup_eq_some held)
  | _ => contradiction

/-- Of what is asked of the parts of a value only that by schemas inside the schema counts. -/
theorem meets_congr {passes others : (schema value : Value) → Bool} {schema : Value}
    (same : ∀ inner, depth inner < depth schema → passes inner = others inner) (value : Value) :
    meets passes schema value = meets others schema value := by
  have items : meetsItems passes schema value = meetsItems others schema value := by
    unfold meetsItems
    split
    · rename_i inner items held
      rw [same inner (depth_lt_of_field? held)]
    · rfl
  have properties : meetsProperties passes schema value = meetsProperties others schema value := by
    unfold meetsProperties
    split
    · rename_i properties entries held
      rw [Bool.eq_iff_iff, List.all_eq_true, List.all_eq_true]
      refine forall₂_congr fun property member => ?_
      rw [same property.2 (Nat.lt_trans (depth_lt_of_mem member) (depth_lt_of_field? held))]
    · rfl
  rw [meets, meets, items, properties]

/-- Goes through a value and the keywords of a schema from the outside in. -/
def walk (schema value : Value) : Bool :=
  meets (fun inner part => if _inside : depth inner < depth schema then walk inner part else true)
    schema value
termination_by depth schema

theorem walk_eq_meets (schema value : Value) :
    walk schema value = meets walk schema value := by
  rw [walk]
  apply meets_congr
  intro inner inside
  funext part
  exact dif_pos inside

/-- The validator that walks through a value and tells whether it fits. -/
def walker : Validator := fun schema value =>
  if walk schema value then none else some ⟨[], "the value does not fit"⟩

theorem passes_walker : walker.passes = walk := by
  funext schema value
  unfold Validator.passes walker
  cases walk schema value with
  | true => rfl
  | false => rfl

theorem isStandardOn_walker (schemas : List Value) : walker.IsStandardOn schemas := by
  have parts {schema value : Value} (passed : walker.passes schema value = true) := by
    rw [passes_walker, walk_eq_meets, ← passes_walker, meets] at passed
    simpa only [Bool.and_eq_true, and_assoc] using passed
  constructor
  · exact fun _ _ _ passed => (parts passed).1
  · exact fun _ _ _ passed => (parts passed).2.1
  · exact fun _ _ _ passed => (parts passed).2.2.1
  · exact fun _ _ _ passed => (parts passed).2.2.2.1
  · exact fun _ _ _ passed => (parts passed).2.2.2.2.1
  · exact fun _ _ _ passed => (parts passed).2.2.2.2.2.1
  · exact fun _ _ _ passed => (parts passed).2.2.2.2.2.2.1
  · exact fun _ _ _ passed => (parts passed).2.2.2.2.2.2.2.1
  · exact fun _ _ _ passed => (parts passed).2.2.2.2.2.2.2.2
  · intro schema _ value fits
    rwa [passes_walker, walk_eq_meets, ← passes_walker]

end Schema

end CasingLint
