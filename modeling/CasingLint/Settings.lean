import CasingLint.Rule.Naming

/-!
# Settings

Settings select rules and adjust what they report: which rules run, how many
findings a file may have, the least severity that counts, and per rule a severity
and options.  Each field holds whatever value the settings file gave.
-/

namespace CasingLint

/-- The settings of a run. -/
structure Settings where
  enabledRules : Value := .list [.text "*"]
  maxFindings : Value := .int 200
  threshold : Value := .text "info"
  severities : Value := .map []
  options : Value := .map []
  deriving Repr, Inhabited

namespace Settings

/-- The names of the fields, in the order in which they are written. -/
def fieldNames : List String :=
  ["enabled_rules", "max_findings_per_file", "severity_threshold", "rule_severities",
    "rule_configs"]

/-- The settings with one field set, if there is a field of this name. -/
def set? (settings : Settings) (name : String) (value : Value) : Option Settings :=
  match name with
  | "enabled_rules" => some { settings with enabledRules := value }
  | "max_findings_per_file" => some { settings with maxFindings := value }
  | "severity_threshold" => some { settings with threshold := value }
  | "rule_severities" => some { settings with severities := value }
  | "rule_configs" => some { settings with options := value }
  | _ => none

/-- Settings with the given fields, the others being as for a bare run. -/
def ofFields (fields : List (String × Value)) : Except Fault Settings :=
  fields.foldlM
    (fun settings (name, value) =>
      match settings.set? name value with
      | some changed => .ok changed
      | none => .error (.unknownField name))
    {}

/-- The settings as a mapping of their fields. -/
def toValue (settings : Settings) : Value :=
  .record (fieldNames.zip
    [settings.enabledRules, settings.maxFindings, settings.threshold, settings.severities,
      settings.options])

/-- The settings that hold without a settings file. -/
def default : Settings where
  severities := .record [(Rule.Naming.id, .text "warn")]
  options := .record [(Rule.Naming.id, .record [("skip_kinds", .list [])])]

/-- The severity of a rule's findings, if the settings give one. -/
def severity? (settings : Settings) (rule : String) : Except Fault (Option Value) :=
  settings.severities.getText rule

/-- The options of a rule, none being an empty mapping. -/
def optionsFor (settings : Settings) (rule : String) : Except Fault Value := do
  return (← settings.options.getText rule).getD (.map [])

/-- The rank of a severity; what is none of the three words ranks lowest. -/
def rank (severity : Value) : Except Fault Nat :=
  match severity with
  | .text "warn" => .ok 1
  | .text "error" => .ok 2
  | value =>
    match value.unhashable? with
    | some typeName => .error (.unhashable typeName)
    | none => .ok 0

/-- Does a severity reach the threshold? -/
def meets (settings : Settings) (severity : Value) : Except Fault Bool := do
  let own ← rank severity
  let least ← rank settings.threshold
  return decide (least ≤ own)

end Settings

end CasingLint
