import CasingLint.Text.Blank
import CasingLint.Text.Numeral
import CasingLint.Text.Quoted

/-!
# Command-line options

Options start with a hyphen.  A long option may be shortened as long as it stays
unique, and its value may follow it after an equals sign.  Short flags may be written
together.  Everything after two hyphens is a plain argument, and so are negative
numbers and whatever holds a blank.  Of an option given twice the last value counts.

Arguments are first classified one by one; then each option takes the values that
it needs from the plain arguments after it.  What nobody takes is left over.
-/

namespace CasingLint.CommandLine

open CasingLint.Text

/-- The form of a report. -/
inductive Format where
  | json
  | pretty
  deriving DecidableEq, Repr

/-- The chosen options. -/
structure Options where
  paths : List String := []
  discover : String := "namecheck.rules"
  rules : String := ""
  config : String := ""
  format : Format := .json
  validate : Bool := false
  jobs : Int := 0
  fix : Bool := false
  diff : Bool := false
  verbose : Bool := false
  deriving DecidableEq, Repr

/-- An option that can be given. -/
inductive Choice where
  | help
  | paths
  | discover
  | rules
  | config
  | format
  | validate
  | jobs
  | fix
  | diff
  | verbose
  deriving DecidableEq, Repr

/-- How many values an option takes. -/
inductive Arity where
  | none
  | one
  | some
  deriving DecidableEq, Repr

namespace Choice

/-- The number of values of an option. -/
def arity : Choice → Arity
  | help | validate | fix | diff | verbose => .none
  | discover | rules | config | format | jobs => .one
  | paths => .some

/-- The spellings of all options, in the order in which they were introduced. -/
def spellings : List (String × Choice) :=
  [("-h", help), ("--help", help), ("--paths", paths), ("--discover", discover),
    ("--rules", rules), ("--config", config), ("--format", format), ("--validate", validate),
    ("--jobs", jobs), ("--fix", fix), ("--diff", diff), ("--verbose", verbose), ("-v", verbose)]

/-- The name of an option in messages. -/
def name (choice : Choice) : String :=
  "/".intercalate ((spellings.filter (·.2 == choice)).map Prod.fst)

end Choice

/-- Why a command line is not understood. -/
inductive UsageError where
  | ambiguous (argument : String) (candidates : List String)
  | missingValue (choice : Choice)
  | ignoredValue (choice : Choice) (value : String)
  | invalidNumber (choice : Choice) (value : String)
  | invalidFormat (choice : Choice) (value : String)
  | missingPaths
  | unrecognized (arguments : List String)
  deriving DecidableEq, Repr

namespace UsageError

/-- A message about an option. -/
def about (choice : Choice) (message : String) : String :=
  "argument " ++ choice.name ++ ": " ++ message

/-- The message for a command line that is not understood. -/
def message : UsageError → String
  | ambiguous argument candidates =>
    "ambiguous option: " ++ argument ++ " could match " ++ ", ".intercalate candidates
  | missingValue choice =>
    about choice (match choice.arity with
      | .some => "expected at least one argument"
      | _ => "expected one argument")
  | ignoredValue choice value => about choice ("ignored explicit argument " ++ quoted value)
  | invalidNumber choice value => about choice ("invalid int value: " ++ quoted value)
  | invalidFormat choice value =>
    about choice ("invalid choice: " ++ quoted value ++ " (choose from 'json', 'pretty')")
  | missingPaths => "the following arguments are required: --paths"
  | unrecognized arguments => "unrecognized arguments: " ++ " ".intercalate arguments

end UsageError

/-! ## Classifying arguments -/

/--
An argument: plain text, the two hyphens, an unknown option, or an option perhaps
with a value.
-/
inductive Word where
  | plain (text : String)
  | hyphens
  | unknown (text : String)
  | option (choice : Choice) (short : Bool) (value? : Option String)
  deriving DecidableEq, Repr

/-- The argument as it was written, if it can be left over. -/
def Word.leftover : Word → String
  | .plain text => text
  | .hyphens => "--"
  | .unknown text => text
  | .option choice _ _ => choice.name

/-- Is the argument plain? -/
def Word.isPlain : Word → Bool
  | .plain _ => true
  | _ => false

/-- A spelling names a short option if its second character is no hyphen. -/
def isShort (spelling : String) : Bool :=
  spelling.toList[1]? != some '-'

/-- The part of an argument before the first equals sign, and what follows it if there is one. -/
def splitValue (argument : List Char) : List Char × Option String :=
  match argument.dropWhile (· ≠ '=') with
  | [] => (argument, none)
  | _ :: value => (argument.takeWhile (· ≠ '='), some (String.ofList value))

/-- The word for an option with a spelling. -/
def optionWord (spelling : String) (choice : Choice) (value? : Option String) : Word :=
  .option choice (isShort spelling) value?

/-- The options that an argument could stand for, with their spellings. -/
def candidates (argument : String) : List (String × Word) :=
  let characters := argument.toList
  if isShort argument then
    let flag := String.ofList (characters.take 2)
    let value := String.ofList (characters.drop 2)
    Choice.spellings.filterMap fun (spelling, choice) =>
      if spelling = flag then some (spelling, optionWord spelling choice (some value))
      else if characters.isPrefixOf spelling.toList then
        some (spelling, optionWord spelling choice none)
      else none
  else
    let (front, value?) := splitValue characters
    Choice.spellings.filterMap fun (spelling, choice) =>
      if front.isPrefixOf spelling.toList then some (spelling, optionWord spelling choice value?)
      else none

/-- Is the argument a negative number, whole or with a point? -/
def isNegativeNumber (argument : List Char) : Bool :=
  match argument with
  | '-' :: size =>
    let rest := size.dropWhile isDecimal
    match rest with
    | [] => !size.isEmpty
    | '.' :: digits => !digits.isEmpty && digits.all isDecimal
    | _ => false
  | _ => false

/-- Classifies an argument that is not the two hyphens. -/
def classify (argument : String) : Except UsageError Word :=
  let characters := argument.toList
  if characters.head? ≠ some '-' then .ok (.plain argument)
  else
    match Choice.spellings.lookup argument with
    | some choice => .ok (optionWord argument choice none)
    | none =>
      if characters.length = 1 then .ok (.plain argument)
      else
        let (front, value?) := splitValue characters
        let spelling := String.ofList front
        match value?, Choice.spellings.lookup spelling with
        | some value, some choice => .ok (optionWord spelling choice (some value))
        | _, _ =>
          match candidates argument with
          | [] =>
            if isNegativeNumber characters || characters.contains ' ' then .ok (.plain argument)
            else .ok (.unknown argument)
          | [(_, word)] => .ok word
          | many => .error (.ambiguous argument (many.map Prod.fst))

/-- Classifies all arguments; those after two hyphens are plain. -/
def classifyAll : List String → Except UsageError (List Word)
  | [] => .ok []
  | argument :: rest =>
    if argument = "--" then .ok (.hyphens :: rest.map .plain)
    else do
      let word ← classify argument
      let words ← classifyAll rest
      return word :: words

/-! ## Taking options -/

/-- What is left of a number's digits after single underscores between digits have been dropped. -/
def isDigitGroups : List Char → Bool
  | [] => false
  | [digit] => isDecimal digit
  | digit :: '_' :: rest => isDecimal digit && isDigitGroups rest
  | digit :: rest => isDecimal digit && isDigitGroups rest

/-- The place of a decimal digit among those of its script. -/
def digitValue (digit : Char) : Nat :=
  match decimalSpans.find? (·.contains digit.toNat) with
  | some span => (digit.toNat - span.first) % 10
  | none => 0

/-- The most digits that a number may have. -/
def digitLimit : Nat := 4300

/--
Reads a whole number, with blanks around it, a sign and underscores between digits.
A number with more digits than the limit is not read.
-/
def readNumber? (text : String) : Option Int :=
  let (negative, written) := match trim text.toList with
    | '-' :: written => (true, written)
    | '+' :: written => (false, written)
    | written => (false, written)
  let digits := written.filter (· ≠ '_')
  if isDigitGroups written && decide (digits.length ≤ digitLimit) then
    let size := digits.foldl (fun total digit => 10 * total + digitValue digit) 0
    some (if negative then -(size : Int) else size)
  else
    none

/-- How far reading has come. -/
inductive Progress where
  | reading (options : Options) (pathsGiven : Bool) (leftover : List String)
  | helpWanted
  deriving DecidableEq, Repr

/-- Sets an option to the values that were found for it. -/
def Options.take (options : Options) (choice : Choice) (values : List String) :
    Except UsageError Options :=
  let value := values.head?.getD ""
  match choice with
  | .help => .ok options
  | .paths => .ok { options with paths := values }
  | .discover => .ok { options with discover := value }
  | .rules => .ok { options with rules := value }
  | .config => .ok { options with config := value }
  | .format =>
    match value with
    | "json" => .ok { options with format := .json }
    | "pretty" => .ok { options with format := .pretty }
    | _ => .error (.invalidFormat .format value)
  | .validate => .ok { options with validate := true }
  | .jobs =>
    match readNumber? value with
    | some number => .ok { options with jobs := number }
    | none => .error (.invalidNumber .jobs value)
  | .fix => .ok { options with fix := true }
  | .diff => .ok { options with diff := true }
  | .verbose => .ok { options with verbose := true }

/-- The choices of short flags written together after a first one. -/
def flagsTogether (choice : Choice) : List Char → Except UsageError (List Choice)
  | [] => .ok [choice]
  | flag :: rest =>
    match Choice.spellings.lookup (String.ofList ['-', flag]) with
    | some next => do
      let others ← flagsTogether next rest
      return choice :: others
    | none => .error (.ignoredValue choice (String.ofList (flag :: rest)))

/-- The choices of a flag with text attached to it, which only short flags may have. -/
def attachedFlags (choice : Choice) (short : Bool) (value : String) :
    Except UsageError (List Choice) :=
  if short && !value.isEmpty then flagsTogether choice value.toList
  else .error (.ignoredValue choice value)

/-- Takes choices without values in turn; help ends everything. -/
def takeFlags (options : Options) : List Choice → Except UsageError (Option Options)
  | [] => .ok (some options)
  | choice :: rest =>
    if choice = .help then .ok none
    else do
      let changed ← options.take choice []
      takeFlags changed rest

/-- The values that an option takes from the words after it, and how many words these are. -/
def valuesFor (choice : Choice) (words : List Word) : Except UsageError (List String) :=
  let plain := (words.takeWhile Word.isPlain).map Word.leftover
  match choice.arity, plain with
  | .none, _ => .ok []
  | _, [] => .error (.missingValue choice)
  | .one, value :: _ => .ok [value]
  | .some, values => .ok values

/-- Reads words after passing over `skipped` of them. -/
def readWords (skipped : Nat) (options : Options) (given : Bool) (leftover : List String) :
    List Word → Except UsageError Progress
  | [] => .ok (.reading options given leftover)
  | word :: rest =>
    match skipped with
    | remaining + 1 => readWords remaining options given leftover rest
    | 0 =>
      match word with
      | .option choice short (some value) =>
        match choice.arity with
        | .none => do
          match ← takeFlags options (← attachedFlags choice short value) with
          | some changed => readWords 0 changed given leftover rest
          | none => return .helpWanted
        | _ => do
          let changed ← options.take choice [value]
          readWords 0 changed (given || choice == .paths) leftover rest
      | .option choice _ none => do
        let values ← valuesFor choice rest
        if choice = .help then return .helpWanted
        let changed ← options.take choice values
        readWords values.length changed (given || choice == .paths) leftover rest
      | other => readWords 0 options given (leftover ++ [other.leftover]) rest

/-- What a command line asks for. -/
inductive Request where
  | help
  | run (options : Options)
  deriving DecidableEq, Repr

/-- Reads a command line. -/
def parse (arguments : List String) : Except UsageError Request := do
  let words ← classifyAll arguments
  match ← readWords 0 {} false [] words with
  | .helpWanted => return .help
  | .reading options given leftover =>
    if !given then throw .missingPaths
    else if !leftover.isEmpty then throw (.unrecognized leftover)
    else return .run options

/-- What `--help` shows. -/
def helpText : String :=
  "\n".intercalate
    ["usage: namecheck [-h] --paths PATHS [PATHS ...] [--discover DISCOVER]",
      "                 [--rules RULES] [--config CONFIG] [--format \x7bjson,pretty\x7d]",
      "                 [--validate] [--jobs JOBS] [--fix] [--diff] [--verbose]",
      "",
      "Check C# identifiers against naming conventions",
      "",
      "options:",
      "  -h, --help            show this help message and exit",
      "  --paths PATHS [PATHS ...]",
      "                        Paths to files or directories to analyze",
      "  --discover DISCOVER   Comma-separated packages to discover rules from",
      "                        (default: namecheck.rules)",
      "  --rules RULES         Rule patterns to run: '*' for all, or comma-separated",
      "                        IDs/patterns (default: enabled_rules from config)",
      "  --config CONFIG       Path to configuration file",
      "  --format \x7bjson,pretty\x7d",
      "                        Output format (default: json)",
      "  --validate            Validate JSON output against schema",
      "  --jobs JOBS           Number of parallel jobs (0=auto, 1=sequential,",
      "                        N=parallel)",
      "  --fix                 Apply rename edits to files in place",
      "  --diff                Print rename edits as a unified diff without writing",
      "                        files",
      "  --verbose, -v         Enable verbose output",
      "",
      "Examples:",
      "  namecheck --paths src/ --format pretty",
      "  namecheck --paths Program.cs --rules \"naming.*\" --validate",
      "  namecheck --paths src/ --diff",
      "        ",
      ""]

end CasingLint.CommandLine
