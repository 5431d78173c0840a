import CasingLint.CommandLine.Run
import Mathlib.Logic.Relation

/-!
# A survey on a pool of workers

The source files are submitted to a pool in the order in which they were collected.  A
free worker takes the file that waits longest; the files that are done are taken in one
by one, in whatever order they come.  What is taken in goes into two tables, the texts by
absolute path and the findings by path, and the survey is put together from these when
everything is in.
-/

namespace CasingLint.CommandLine

/-! ## The pool -/

/--
The files of a survey: those that wait for a worker, those that are worked on, those that
are done, and those that were taken in, in this order.
-/
structure Pool where
  waiting : List String
  running : List String := []
  done : List String := []
  received : List String := []

namespace Pool

/-- One step of a pool with a number of workers. -/
inductive Step (workers : Nat) : Pool → Pool → Prop where
  /-- A free worker takes the next file. -/
  | start {file : String} {waiting running done received : List String}
      (free : running.length < workers) :
      Step workers ⟨file :: waiting, running, done, received⟩
        ⟨waiting, file :: running, done, received⟩
  /-- A worker is done with its file. -/
  | finish {file : String} {waiting before after done received : List String} :
      Step workers ⟨waiting, before ++ file :: after, done, received⟩
        ⟨waiting, before ++ after, file :: done, received⟩
  /-- The result for a file is taken in. -/
  | receive {file : String} {waiting running before after received : List String} :
      Step workers ⟨waiting, running, before ++ file :: after, received⟩
        ⟨waiting, running, before ++ after, received ++ [file]⟩

/-- Can a pool with a number of workers take in all files in this order? -/
def Delivers (workers : Nat) (files order : List String) : Prop :=
  Relation.ReflTransGen (Step workers) { waiting := files }
    { waiting := [], received := order }

end Pool

/-! ## What is taken in -/

/-- The tables of texts by absolute path and of findings by path. -/
structure Intake where
  texts : Report.Texts := []
  findings : List (String × List Finding) := []

namespace Intake

/-- The tables with the result for one more file; one that cannot be read adds nothing. -/
def receive (directory : String) (intake : Intake) (file : String) : FileResult → Intake
  | .unreadable _ => intake
  | .analyzed text findings _ =>
    { texts := Entry.setNamed intake.texts (Path.resolve directory file) text
      findings := Entry.setNamed intake.findings file findings }

/-- The tables after files were taken in in the given order. -/
def ofOrder (world : World) (settings : Settings) (rules : List Rule) (order : List String) :
    Except Fault Intake :=
  order.foldlM
    (fun intake file => do
      let result ← analyzeFile world settings rules file
      return intake.receive world.store.directory file result)
    {}

/-- The survey of the files, by the tables. -/
def survey (intake : Intake) (files : List String) (rulesRun : Nat) : Survey where
  findings := files.flatMap fun file => (intake.findings.lookup file).getD []
  texts := intake.texts
  filesScanned := intake.findings.length
  rulesRun := rulesRun

end Intake

/--
Analyses every source file that the paths stand for on a pool that takes them in in the
given order.  Log rows are no part of it: they are written while the work goes on.
-/
def pooledSurvey (world : World) (catalogue : Catalogue) (settings : Settings) (patterns : Value)
    (paths order : List String) : Except Fault Survey := do
  let rules ← catalogue.enabled patterns Rule.Naming.language
  let intake ← Intake.ofOrder world settings rules order
  return intake.survey (world.store.sources paths).1 rules.length

end CasingLint.CommandLine
