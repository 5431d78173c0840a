import CasingLint.Analysis
import CasingLint.Catalogue.Discovery
import CasingLint.CommandLine.Options
import CasingLint.Fix
import CasingLint.Settings.Load
import CasingLint.Store.Sources
import CasingLint.Value.Json

/-!
# Running the program

A run is a function from a world to an outcome and a new file store.  The world holds
what the program itself does not do: the files, the modules that can be loaded, a
parser for source text, a reader for settings files, a validator for reports, and a
clock's account of how long the work took.

Source files are independent of each other: each is read and analysed by itself, a
file that cannot be read is logged and passed over, and the findings are reported in
the order in which the files were collected.
-/

namespace CasingLint.CommandLine

open CasingLint.Text

/-- What surrounds a run. -/
structure World where
  store : Store
  modules : List RuleModule := RuleModule.standard
  parse : String → SyntaxTree
  reader : Settings.Reader
  validate : Schema.Validator
  metrics : Report.Metrics

/--
What a run shows: its exit code, its output and its log rows, or what is wrong
with its usage.
-/
structure Outcome where
  exitCode : Nat
  output : String := ""
  usageError? : Option String := none
  rows : List Log := []

/-- The parts of a text between commas, trimmed, without the empty ones. -/
def commaParts (text : String) : List String :=
  (((splitAt ',' text.toList).map trim).filter (!·.isEmpty)).map String.ofList

/-- What became of a source file. -/
inductive FileResult where
  | unreadable (fault : Fault)
  | analyzed (text : String) (findings : List Finding) (rows : List Log)

/-- Reads and analyses a source file. -/
def analyzeFile (world : World) (settings : Settings) (rules : List Rule) (file : String) :
    Except Fault FileResult :=
  match world.store.readText file with
  | .error fault => .ok (.unreadable fault)
  | .ok text => do
    let (findings, rows) ← Analysis.analyze settings rules file text (world.parse text)
    return .analyzed text findings rows

/-- What was found in all source files. -/
structure Survey where
  findings : List Finding := []
  texts : Report.Texts := []
  filesScanned : Nat := 0
  rulesRun : Nat := 0
  rows : List Log := []

/-- The findings of the result for a file. -/
def FileResult.findings : FileResult → List Finding
  | .unreadable _ => []
  | .analyzed _ findings _ => findings

/-- The text of a file that could be read, by its absolute path. -/
def FileResult.textEntry (directory file : String) : FileResult → Report.Texts
  | .unreadable _ => []
  | .analyzed text _ _ => [(Path.resolve directory file, text)]

/-- The log rows of the result for a file. -/
def FileResult.logRows (file : String) : FileResult → List Log
  | .unreadable fault =>
    [⟨.warning, .run, "Failed to read " ++ file ++ ": " ++ fault.message⟩]
  | .analyzed _ _ rows => rows

/-- Was the file analysed? -/
def FileResult.isAnalyzed : FileResult → Bool
  | .unreadable _ => false
  | .analyzed _ _ _ => true

/-- Puts the results for files together in their order. -/
def Survey.ofResults (directory : String) (results : List (String × FileResult)) : Survey where
  findings := results.flatMap fun (_, result) => result.findings
  texts := results.flatMap fun (file, result) => result.textEntry directory file
  filesScanned :=
    (((results.filter fun (_, result) => result.isAnalyzed).map Prod.fst).eraseDups).length
  rows := results.flatMap fun (file, result) => result.logRows file

/-- Analyses every source file that the paths stand for. -/
def survey (world : World) (catalogue : Catalogue) (settings : Settings) (patterns : Value)
    (paths : List String) : Except Fault Survey := do
  let rules ← catalogue.enabled patterns Rule.Naming.language
  let (files, missingRows) := world.store.sources paths
  let results ← files.mapM fun file => do
    return (file, ← analyzeFile world settings rules file)
  let found := Survey.ofResults world.store.directory results
  let total : Log := ⟨.info, .run,
    "Analyzing " ++ toString files.length ++ " files with " ++ toString rules.length ++ " rules"⟩
  return { found with
    rulesRun := rules.length
    rows := missingRows ++ total :: found.rows }

/-- Writes the new texts of fixed files in turn, up to the first that cannot be written. -/
def writeFixes (store : Store) : List Fix → Store × Option Fault
  | [] => (store, none)
  | fix :: rest =>
    match store.writeText fix.file fix.after with
    | .error fault => (store, some fault)
    | .ok changed => writeFixes changed rest

/--
Fixes the files that findings name in turn, or only finds out how they would change.  What was
written before a fault stays written.
-/
def mendFiles (store : Store) (texts : Report.Texts) (findings : List Finding) (write : Bool) :
    Store × Except Fault (List Fix) :=
  let (fixes, fault?) := Fix.all store.directory texts findings
  let (written, refusal?) := if write then writeFixes store fixes else (store, none)
  match refusal?.or fault? with
  | some fault => (written, .error fault)
  | none => (written, .ok fixes)

/-- The log row for a fixed file. -/
def fixRow (fix : Fix) : Log :=
  ⟨.info, .run, "Fixed " ++ toString fix.findings ++ " identifier(s) in " ++ fix.file⟩

/-- Fixes files or shows how they would change. -/
def fixFiles (world : World) (options : Options) (found : Survey) :
    Store × Except Fault Outcome :=
  let (store, result) := mendFiles world.store found.texts found.findings options.fix
  (store, result.map fun fixes =>
    { exitCode := 0
      output := if options.diff then String.join (fixes.map Fix.diff) else ""
      rows := found.rows ++ if options.fix then fixes.map fixRow else [] })

/-- Reports what was found. -/
def report (world : World) (options : Options) (found : Survey) : Except Fault Outcome :=
  let exitCode := if found.findings.isEmpty then 0 else 1
  let directory := world.store.directory
  match options.format with
  | .pretty =>
    .ok
      { exitCode := exitCode
        output := Report.plainText directory found.texts found.findings ++ "\n"
        rows := found.rows }
  | .json =>
    let document := Report.document (Report.findingValues directory found.texts found.findings)
      found.filesScanned found.rulesRun world.metrics
    let errors := if options.validate then Report.documentErrors world.validate document else []
    if !errors.isEmpty then
      .ok { exitCode := 2, rows := found.rows ++ errors.map (⟨.error, .run, ·⟩) }
    else
      match Value.Json.render (.indented 2) document with
      | .error unwritable => .error (.unwritable unwritable.typeName)
      | .ok text => .ok { exitCode := exitCode, output := text ++ "\n", rows := found.rows }

/-- The catalogue that a run works with, or what kept it from being put together. -/
def prepare (world : World) (options : Options) : Except Fault (Catalogue × List Log) :=
  let empty : Catalogue := {}
  let start := empty.registerFrontEnd Rule.Naming.language .standard
  let discovery := start.discover world.modules (commaParts options.discover)
  match discovery.fault? with
  | some fault => .error fault
  | none => .ok (discovery.catalogue, discovery.rows)

/-- The settings file that a run uses: the given one, else the nearest; empty if there is none. -/
def settingsPath (store : Store) (options : Options) : String :=
  if options.config.isEmpty then
    (Settings.find? store (options.paths.head?.getD "")).getD ""
  else
    options.config

/-- The patterns that select rules: the given ones, else those of the settings. -/
def rulePatterns (options : Options) (settings : Settings) : Value :=
  if options.rules.isEmpty then settings.enabledRules
  else .list ((commaParts options.rules).map .text)

/-- Log rows put in front of those of an outcome. -/
def Outcome.after (rows : List Log) (outcome : Outcome) : Outcome :=
  { outcome with rows := rows ++ outcome.rows }

/-- A run with usable settings. -/
def execute (world : World) (options : Options) (catalogue : Catalogue) (settings : Settings) :
    Store × Except Fault Outcome :=
  match survey world catalogue settings (rulePatterns options settings) options.paths with
  | .error fault => (world.store, .error fault)
  | .ok found =>
    if options.fix || options.diff then fixFiles world options found
    else (world.store, report world options found)

/-- A run with the given options. -/
def runOptions (world : World) (options : Options) : Store × Except Fault Outcome :=
  match prepare world options with
  | .error fault => (world.store, .error fault)
  | .ok (catalogue, rows) =>
    let path := settingsPath world.store options
    match Settings.load world.store world.reader path (!options.config.isEmpty) with
    | .error (.settings place reason) =>
      (world.store, .ok
        { exitCode := 2
          rows := rows ++ [⟨.error, .run, (Fault.settings place reason).message⟩] })
    | .error fault => (world.store, .error fault)
    | .ok (settings, settingsRows) =>
      let choice : Log :=
        ⟨.debug, .run, "Using config: " ++ if path.isEmpty then "defaults" else path⟩
      let (store, result) := execute world options catalogue settings
      (store, result.map (Outcome.after (rows ++ settingsRows ++ [choice])))

/-- A run of the program with command-line arguments. -/
def run (world : World) (arguments : List String) : Store × Except Fault Outcome :=
  match parse arguments with
  | .error error =>
    (world.store, .ok
      { exitCode := 2, usageError? := some ("namecheck: error: " ++ error.message) })
  | .ok .help => (world.store, .ok { exitCode := 0, output := helpText })
  | .ok (.run options) =>
    let level := if options.verbose then Level.debug else Level.warning
    let (store, result) := runOptions world options
    (store, result.map fun outcome => { outcome with rows := Log.atLeast level outcome.rows })

end CasingLint.CommandLine
