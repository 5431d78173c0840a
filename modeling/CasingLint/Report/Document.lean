import CasingLint.Convention
import CasingLint.Finding
import CasingLint.Path
import CasingLint.Position
import CasingLint.Schema

/-!
# Report documents

A report gives every finding with the absolute path and URI of its file and with
its span both in octets and as a range of lines and columns.  `findingSchema` and
`documentSchema` say what a report may hold; the checks tell what a validator finds
wrong.
-/

namespace CasingLint.Report

open CasingLint.Schema (Step Validator)

/-! ## Schemas -/

/-- A range of lines, counted from one, and columns, counted from zero. -/
def rangeSchema : Value :=
  Schema.closed
    [("startLine", Schema.whole 1), ("startCol", Schema.whole 0), ("endLine", Schema.whole 1),
      ("endCol", Schema.whole 0)]
    ["startLine", "startCol", "endLine", "endCol"]

/-- An edit in a report. -/
def editSchema : Value :=
  Schema.closed
    [("file_path", Schema.text), ("start_byte", Schema.whole 0), ("end_byte", Schema.whole 0),
      ("replacement", Schema.text), ("range", rangeSchema)]
    ["file_path", "start_byte", "end_byte", "replacement", "range"]

/-- A name of a convention. -/
def conventionSchema : Value :=
  Schema.oneOf (Convention.all.map Convention.label)

/-- The details that the naming rule gives; other rules may add their own. -/
def detailsSchema : Value :=
  Schema.extensible
    [("kind", Schema.text), ("convention", conventionSchema), ("original_name", Schema.text),
      ("suggested_name", Schema.text)]

/-- The path of a file in a finding. -/
def pathSchema : Value :=
  Schema.described "Absolute native path"

/-- The URI of a file in a finding. -/
def uriSchema : Value :=
  Schema.described "file:// URI of file_path"

/-- A severity in a finding. -/
def severitySchema : Value :=
  Schema.oneOf ["info", "warn", "error"]

/-- A finding in a report. -/
def findingSchema : Value :=
  Schema.closed
    [("rule_id", Schema.nonempty), ("message", Schema.text), ("file_path", pathSchema),
      ("uri", uriSchema), ("start_byte", Schema.whole 0), ("end_byte", Schema.whole 0),
      ("range", rangeSchema), ("severity", severitySchema),
      ("autofix", Schema.listOf editSchema), ("meta", detailsSchema)]
    ["rule_id", "message", "file_path", "uri", "start_byte", "end_byte", "range", "severity"]

/-- The times that a run took. -/
def metricsSchema : Value :=
  Schema.closed
    [("parse_ms", Schema.amount), ("rules_ms", Schema.amount), ("total_ms", Schema.amount)]
    ["parse_ms", "rules_ms", "total_ms"]

/-- The version of the report format. -/
def protocolVersion : String := "1"

/-- The version of the program. -/
def engineVersion : String := "0.1.0"

/-- A whole report. -/
def documentSchema : Value :=
  Schema.closed
    [("protocol_version", Schema.exactly protocolVersion), ("engine_version", Schema.text),
      ("files_scanned", Schema.whole 0), ("rules_run", Schema.whole 0),
      ("findings", Schema.listOf findingSchema), ("metrics", metricsSchema)]
    ["protocol_version", "engine_version", "files_scanned", "rules_run", "findings", "metrics"]

/-- The schema of reports with all the schemas inside it. -/
def schemas : List Value :=
  [Schema.text, Schema.nonempty, pathSchema, uriSchema, Schema.whole 0, Schema.whole 1,
    Schema.amount, conventionSchema, severitySchema, Schema.exactly protocolVersion, rangeSchema,
    editSchema, Schema.listOf editSchema, detailsSchema, findingSchema,
    Schema.listOf findingSchema, metricsSchema, documentSchema]

/-! ## Documents -/

/-- The texts of files by absolute path; of a path given twice the last text counts. -/
abbrev Texts := List (String × String)

/-- The text of a file. -/
def textOf? (texts : Texts) (path : String) : Option String :=
  texts.reverse.lookup path

/-- The range of a span of octets. -/
def rangeValue (text : String) (start stop : Int) : Value :=
  let first := Position.ofOffset text start
  let last := Position.ofOffset text stop
  .record
    [("startLine", .ofNat first.line), ("startCol", .ofNat first.column),
      ("endLine", .ofNat last.line), ("endCol", .ofNat last.column)]

/-- An edit of the file at an absolute path. -/
def editValue (path text : String) (edit : Edit) : Value :=
  .record
    [("file_path", .text path), ("start_byte", .int edit.start), ("end_byte", .int edit.stop),
      ("replacement", .text edit.replacement), ("range", rangeValue text edit.start edit.stop)]

/-- A field that is left out when its value is empty. -/
def optionalField {α : Type} (name : String) (write : List α → Value) :
    Option (List α) → List (String × Value)
  | none => []
  | some [] => []
  | some items => [(name, write items)]

/-- A finding; a file whose text is not known counts as empty. -/
def findingValue (directory : String) (texts : Texts) (finding : Finding) : Value :=
  let path := Path.resolve directory finding.file
  let text := (textOf? texts path).getD ""
  .record
    ([("rule_id", .text finding.rule), ("message", .text finding.message),
        ("file_path", .text path), ("uri", .text (Path.uri path)),
        ("start_byte", .int finding.start), ("end_byte", .int finding.stop),
        ("range", rangeValue text finding.start finding.stop),
        ("severity", finding.severity)] ++
      optionalField "autofix" (fun edits => .list (edits.map (editValue path text)))
        finding.autofix ++
      optionalField "meta" .record finding.details)

/-- All findings. -/
def findingValues (directory : String) (texts : Texts) (findings : List Finding) : List Value :=
  findings.map (findingValue directory texts)

/-- The times of a run in milliseconds. -/
structure Metrics where
  parse : Value
  rules : Value
  total : Value

/-- A time with two decimal places. -/
def roundedTime : Value → Value
  | .float number => .float number.toHundredths
  | .bool truth => .int (if truth then 1 else 0)
  | value => value

/-- A whole report. -/
def document (findings : List Value) (filesScanned rulesRun : Int) (metrics : Metrics) : Value :=
  .record
    [("protocol_version", .text protocolVersion), ("engine_version", .text engineVersion),
      ("files_scanned", .int filesScanned), ("rules_run", .int rulesRun),
      ("findings", .list findings),
      ("metrics", .record
        [("parse_ms", roundedTime metrics.parse), ("rules_ms", roundedTime metrics.rules),
          ("total_ms", roundedTime metrics.total)])]

/-! ## Checks -/

/-- What is wrong with each finding that does not fit its schema. -/
def findingErrors (validate : Validator) (findings : List Value) : List String :=
  (findings.mapIdx fun index finding =>
    (validate findingSchema finding).toList.map fun complaint =>
      "Finding " ++ toString index ++ ": " ++ complaint.message).flatten

/-- The text of a place in a document. -/
def placeText (place : List Step) : String :=
  let text := "/".intercalate (place.map Step.text)
  if text.isEmpty then "<root>" else text

/-- What is wrong with a report, if anything. -/
def documentErrors (validate : Validator) (document : Value) : List String :=
  (validate documentSchema document).toList.map fun complaint =>
    "Output validation at " ++ placeText complaint.place ++ ": " ++ complaint.message

/-! ## Plain text -/

/-- A finding on one line, with line and column counted from one. -/
def findingLine (directory : String) (texts : Texts) (finding : Finding) : String :=
  let text := (textOf? texts (Path.resolve directory finding.file)).getD ""
  let place := Position.ofOffset text finding.start
  finding.file ++ ":" ++ toString place.line ++ ":" ++ toString (place.column + 1) ++ ": " ++
    finding.severity.display ++ ": " ++ finding.message ++ " [" ++ finding.rule ++ "]"

/-- Findings as lines of text, with their number at the end. -/
def plainText (directory : String) (texts : Texts) (findings : List Finding) : String :=
  "\n".intercalate (findings.map (findingLine directory texts) ++
    [toString findings.length ++ " finding(s)"])

end CasingLint.Report
