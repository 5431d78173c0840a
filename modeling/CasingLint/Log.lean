/-!
# Log rows

What happens beside the results is told in log rows: a level, the part of the
program that speaks, and a message.
-/

namespace CasingLint

/-- How important a log row is. -/
inductive Level where
  | debug
  | info
  | warning
  | error
  deriving DecidableEq, Repr

namespace Level

/-- The word for a level. -/
def name : Level → String
  | debug => "DEBUG"
  | info => "INFO"
  | warning => "WARNING"
  | error => "ERROR"

/-- Levels as numbers: more important ones are greater. -/
def rank : Level → Nat
  | debug => 0
  | info => 1
  | warning => 2
  | error => 3

end Level

/-- A part of the program that writes log rows. -/
inductive Speaker where
  | frontEnd
  | catalogue
  | settings
  | run
  deriving DecidableEq, Repr

/-- The name under which a part of the program writes. -/
def Speaker.name : Speaker → String
  | .frontEnd => "namecheck.engine.csharp_adapter"
  | .catalogue => "namecheck.engine.registry"
  | .settings => "namecheck.engine.config"
  | .run => "namecheck.engine.runner"

/-- A log row. -/
structure Log where
  level : Level
  speaker : Speaker
  message : String
  deriving DecidableEq, Repr

/-- The rows that are at least as important as a level. -/
def Log.atLeast (level : Level) (rows : List Log) : List Log :=
  rows.filter fun row => decide (level.rank ≤ row.level.rank)

end CasingLint
