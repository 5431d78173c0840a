import CasingLint.Value

/-!
# Schemas

A schema is a document itself: a mapping from keywords to what they ask of a value.  To
check a value against a schema is the work of a validator, which is not part of this
library.  Where a value does not fit, the validator says what is wrong with it and where.
-/

namespace CasingLint.Schema

/-! ## Documents -/

/-- A text. -/
def text : Value :=
  .record [("type", .text "string")]

/-- A text that is not empty. -/
def nonempty : Value :=
  .record [("type", .text "string"), ("minLength", .int 1)]

/-- A text, with a word on what it holds. -/
def described (description : String) : Value :=
  .record [("type", .text "string"), ("description", .text description)]

/-- A whole number that is not below a bound. -/
def whole (minimum : Nat) : Value :=
  .record [("type", .text "integer"), ("minimum", .ofNat minimum)]

/-- A number that is not below zero. -/
def amount : Value :=
  .record [("type", .text "number"), ("minimum", .int 0)]

/-- One of several texts. -/
def oneOf (options : List String) : Value :=
  .record [("enum", .list (options.map .text))]

/-- This text only. -/
def exactly (content : String) : Value :=
  .record [("const", .text content)]

/-- A list of values that all fit a schema. -/
def listOf (items : Value) : Value :=
  .record [("type", .text "array"), ("items", items)]

/-- A mapping with some fields that it may have, besides any others. -/
def extensible (properties : List (String × Value)) : Value :=
  .record [("type", .text "object"), ("properties", .record properties)]

/-- A mapping with no fields but those that it may have, of which some are required. -/
def closed (properties : List (String × Value)) (required : List String) : Value :=
  .record
    [("type", .text "object"), ("properties", .record properties),
      ("required", .list (required.map .text)), ("additionalProperties", .bool false)]

/-! ## Checks -/

/-- A step from a value into it. -/
inductive Step where
  | key (name : String)
  | index (number : Nat)
  deriving DecidableEq, Repr

/-- The text of a step. -/
def Step.text : Step → String
  | .key name => name
  | .index number => toString number

/-- What is wrong with the value at a place. -/
structure Complaint where
  place : List Step
  message : String
  deriving DecidableEq, Repr

/-- Checks a value against a schema: there is no complaint about a value that fits. -/
abbrev Validator := (schema value : Value) → Option Complaint

end CasingLint.Schema
