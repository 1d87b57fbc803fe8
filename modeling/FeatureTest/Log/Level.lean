/-!
Log levels, and the parts of the program that log under names of their own.
-/
namespace FeatureTest.Log

/-- How much a message matters. -/
inductive Level where
  | error
  | warn
  | info
  | debug
  | trace
  deriving DecidableEq, Repr

namespace Level

def all : List Level := [error, warn, info, debug, trace]

def name : Level → String
  | error => "error"
  | warn => "warn"
  | info => "info"
  | debug => "debug"
  | trace => "trace"

/-- The more a level lets through, the higher it ranks. -/
def rank : Level → Nat
  | error => 1
  | warn => 2
  | info => 3
  | debug => 4
  | trace => 5

end Level

/-- The least important level that is let through; none lets nothing through. -/
abbrev Threshold := Option Level

namespace Threshold

def name : Threshold → String
  | some level => level.name
  | none => "off"

def allows (threshold : Threshold) (level : Level) : Bool :=
  match threshold with
  | some t => level.rank ≤ t.rank
  | none => false

/-- The threshold for how often more output was asked for. -/
def ofVerbosity : Nat → Threshold
  | 0 => some .warn
  | 1 => some .info
  | 2 => some .debug
  | _ => some .trace

end Threshold

/-- Where a message comes from. -/
inductive Target where
  | program
  | classification
  | commands
  | generation
  | model
  | registry
  | report
  deriving DecidableEq, Repr

namespace Target

def name : Target → String
  | program => "ftm"
  | classification => "ftm_classify"
  | commands => "ftm_cli"
  | generation => "ftm_generate"
  | model => "ftm_model"
  | registry => "ftm_registry"
  | report => "ftm_report"

/-- The targets that a chosen level applies to. -/
def chosen : List Target := [classification, commands, generation, model, registry, report]

end Target

/-- The filter that lets the chosen targets through up to a threshold, and warnings of all others. -/
def directives (threshold : Threshold) : String :=
  ",".intercalate ("warn" :: Target.chosen.map fun t => s!"{t.name}={threshold.name}")

end FeatureTest.Log
