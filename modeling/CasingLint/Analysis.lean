import CasingLint.Log
import CasingLint.Settings
import CasingLint.Suppression

/-!
# Analysing a file

The rules run one after the other.  A rule that gives up is logged and contributes
nothing.  The findings of the others get the severity that the settings give to
their rule; those below the threshold and those suppressed by a comment on their
line are dropped, and of the rest only so many are kept as the settings allow.
-/

namespace CasingLint.Analysis

/-- A finding with the severity that the settings give, if that is a real value. -/
def withSeverity (severity? : Option Value) (finding : Finding) : Finding :=
  match severity? with
  | some severity => if severity.isTruthy then { finding with severity := severity } else finding
  | none => finding

/-- The findings that reach the threshold. -/
def aboveThreshold (settings : Settings) (findings : List Finding) :
    Except Fault (List Finding) :=
  findings.filterM fun finding => settings.meets finding.severity

/-- The findings of one rule that reach the threshold, and a log row if the rule gave up. -/
def runRule (settings : Settings) (context : Value → RuleContext) (rule : Rule) :
    Except Fault (List Finding × List Log) := do
  let options ← settings.optionsFor rule.id
  let file := (context options).file
  match rule.visit (context options) with
  | .error fault =>
    return ([], [⟨.warning, .run,
      "Rule '" ++ rule.id ++ "' failed on " ++ file ++ ": " ++ fault.message⟩])
  | .ok reported =>
    let severity? ← settings.severity? rule.id
    let kept ← aboveThreshold settings (reported.map (withSeverity severity?))
    return (kept, [])

/-- The findings of all rules that reach the threshold, in the order of the rules. -/
def runRules (settings : Settings) (context : Value → RuleContext) :
    List Rule → Except Fault (List Finding × List Log)
  | [] => .ok ([], [])
  | rule :: rest => do
    let (findings, rows) ← runRule settings context rule
    let (others, otherRows) ← runRules settings context rest
    return (findings ++ others, rows ++ otherRows)

/-- The findings that no comment suppresses. -/
def unsuppressed (text : String) (findings : List Finding) : List Finding :=
  findings.filter fun finding => !Suppression.isSuppressed text finding.rule finding.start

/-- Are there more findings than a cap allows? -/
def exceeds (count : Nat) (cap : Value) : Except Fault Bool :=
  match cap with
  | .int bound => .ok (decide (bound < count))
  | .bool truth => .ok (decide ((if truth then 1 else 0) < count))
  | .float bound => .ok (bound.isBelow count)
  | value => .error (.notNumber value.typeName)

/-- The first items of a list; a negative number counts from its end. -/
def firstItems {α : Type} (count : Int) (items : List α) : List α :=
  if count < 0 then items.take (items.length - count.natAbs) else items.take count.toNat

/-- The findings cut to a cap that they exceed. -/
def cut (findings : List Finding) (cap : Value) : Except Fault (List Finding) :=
  match cap with
  | .int bound => .ok (firstItems bound findings)
  | .bool truth => .ok (findings.take (if truth then 1 else 0))
  | _ => .error .notIndex

/-- As many findings as the settings allow, and a log row if that is not all. -/
def capped (settings : Settings) (file : String) (findings : List Finding) :
    Except Fault (List Finding × List Log) := do
  if ← exceeds findings.length settings.maxFindings then
    let kept ← cut findings settings.maxFindings
    return (kept, [⟨.info, .run,
      file ++ ": truncating " ++ toString findings.length ++ " findings to " ++
        settings.maxFindings.display⟩])
  else
    return (findings, [])

/-- The findings for a file, and the log rows on the way. -/
def analyze (settings : Settings) (rules : List Rule) (file text : String) (tree : SyntaxTree) :
    Except Fault (List Finding × List Log) := do
  let context (options : Value) : RuleContext :=
    { file := file, text := text, tree? := some tree, language? := some Rule.Naming.language
      options := options }
  let (findings, rows) ← runRules settings context rules
  let (kept, cutRows) ← capped settings file (unsuppressed text findings)
  return (kept, rows ++ cutRows)

end CasingLint.Analysis
