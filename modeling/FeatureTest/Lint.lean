import FeatureTest.Timeline

/-!
Lint reports: the warnings of a whole registry, by kind and by where the values were recorded.
-/
namespace FeatureTest

namespace Feature

/-- The warnings about the rows that a table shows. -/
def historyWarnings (feature : Feature) (ladder : Ladder) : Except TimelineError (List Warning) :=
  (·.warnings) <$> Timeline.ofItems feature.name (feature.describedRows.map (·.dated)) ladder

/-- The warnings about one implementation's facts. -/
def supportWarnings (feature : Feature) (implementation : Implementation) (ladder : Ladder) :
    Except TimelineError (List Warning) :=
  (fun t => t.warnings.map ({ · with implementation := some implementation })) <$>
    Timeline.ofItems feature.name ((feature.supportFor implementation).facts.map (·.dated)) ladder

end Feature

structure LintReport where
  kind : Kind
  /-- None for the published history. -/
  implementation : Option Implementation
  featuresChecked : Nat
  warnings : List Warning

namespace LintReport

def source (report : LintReport) : String :=
  match report.implementation with
  | some i => i.name
  | none => "history"

def count (report : LintReport) (kind : WarningKind) : Nat :=
  report.warnings.countP (·.kind == kind)

end LintReport

namespace Registry

def historyReport (registry : Registry) (kind : Kind) (ladder : Ladder) :
    Except TimelineError LintReport := do
  let features := registry.published kind
  return ⟨kind, none, features.length, (← features.mapM (·.historyWarnings ladder)).flatten⟩

def supportReport (registry : Registry) (kind : Kind) (implementation : Implementation)
    (ladder : Ladder) : Except TimelineError LintReport := do
  let features := registry.active kind implementation
  return ⟨kind, some implementation, features.length,
    (← features.mapM (·.supportWarnings implementation ladder)).flatten⟩

/-- For each kind the history first, then each implementation. -/
def lint (registry : Registry) (ladder : Ladder) : Except TimelineError (List LintReport) := do
  return (← Kind.all.mapM fun kind => do
    let history ← registry.historyReport kind ladder
    let support ← Implementation.all.mapM fun i => registry.supportReport kind i ladder
    return history :: support).flatten

end Registry
end FeatureTest
