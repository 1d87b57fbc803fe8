import FeatureTest.Feature

/-!
Timelines: the standard each recorded value belongs to, and what looks wrong about it.
-/
namespace FeatureTest

/-- A value, with the standard that a defect report applied it to. -/
structure Dated where
  value : Nat
  drAgainst : Option String
  deriving DecidableEq

def Fact.dated (fact : Fact) : Dated := ⟨fact.value, fact.drAgainst⟩

def HistoryRow.dated (row : HistoryRow) : Dated := ⟨row.value, row.drAgainst⟩

inductive WarningKind where
  /-- The value does not lie past the target standard. -/
  | invalidDefectReport
  /-- An earlier value belongs to a later standard than the target. -/
  | defectReportOutOfOrder
  /-- The value before it belongs to the same published standard. -/
  | staleValue
  deriving DecidableEq, Repr

namespace WarningKind

def all : List WarningKind := [invalidDefectReport, defectReportOutOfOrder, staleValue]

def label : WarningKind → String
  | invalidDefectReport => "invalid-dr"
  | defectReportOutOfOrder => "dr-out-of-order"
  | staleValue => "stale-value"

/-- The name used in reports that are read by programs. -/
def fullName : WarningKind → String
  | invalidDefectReport => "invalid-defect-report"
  | defectReportOutOfOrder => "defect-report-out-of-order"
  | staleValue => "stale-value"

end WarningKind

/-- A value with the name of its standard. -/
structure Placed where
  standard : String
  value : Nat
  deriving DecidableEq, Repr

structure Warning where
  feature : String
  /-- Set when the value comes from one implementation's support. -/
  implementation : Option Implementation := none
  kind : WarningKind
  placed : Placed
  previous : Option Placed
  deriving DecidableEq

namespace Warning

def headline (w : Warning) : String :=
  let subject := match w.implementation with
    | some i => s!"{w.feature} ({i.name})"
    | none => w.feature
  match w.kind with
  | .invalidDefectReport | .defectReportOutOfOrder => "invalid DR for " ++ subject
  | .staleValue => "there is a newer value for " ++ subject

def text (w : Warning) : String :=
  let start := w.headline ++ s!"\n  standard: {w.placed.standard}\n  printing: {w.placed.value}"
  match w.previous with
  | none => start
  | some p =>
    match w.kind with
    | .staleValue => start ++ s!"\n  previous value: {p.value}"
    | _ => start ++ s!"\n  previous: {p.standard}, {p.value}"

end Warning

/-- The standard that a value is documented under. -/
structure Assignment (ladder : Ladder) where
  value : Nat
  rung : ladder.Rung
  /-- Placed by a defect report rather than by its value. -/
  defectReport : Bool
  deriving DecidableEq

def Assignment.placed {ladder : Ladder} (a : Assignment ladder) : Placed :=
  ⟨(ladder.standard a.rung).name, a.value⟩

inductive TimelineError where
  | violation (feature : String) (violation : Violation)
  | unsorted (feature : String) (previous value : Nat)
  deriving DecidableEq

def TimelineError.message : TimelineError → String
  | violation feature v => s!"{feature}: " ++ v.message
  | unsorted feature previous value =>
    s!"{feature}: values out of order: {value} follows {previous}"

/-- Assignments in the order of the values, and the warnings met on the way. -/
structure Timeline (ladder : Ladder) where
  assignments : List (Assignment ladder)
  warnings : List Warning

namespace Dated

variable {ladder : Ladder}

/-- Where one value belongs, whatever stands beside it. -/
def assign (item : Dated) : Except Violation (Assignment ladder) :=
  match item.drAgainst with
  | some target => do return ⟨item.value, ← ladder.require target, true⟩
  | none => .ok ⟨item.value, ladder.narrowestFor item.value, false⟩

end Dated

namespace Assignment

variable {ladder : Ladder}

/-- What looks wrong about a value that follows `previous`. -/
def warningKinds (previous : Option (Assignment ladder)) (a : Assignment ladder) :
    List (WarningKind × Option (Assignment ladder)) :=
  if a.defectReport then
    (if (ladder.watermark a.rung).all (a.value ≤ ·) then [(.invalidDefectReport, none)] else []) ++
    (previous.filter (a.rung < ·.rung)).toList.map fun p => (.defectReportOutOfOrder, some p)
  else
    (previous.filter fun p => p.rung == a.rung && !ladder.isFinal a.rung).toList.map fun p =>
      (.staleValue, some p)

def warnings (feature : String) (previous : Option (Assignment ladder)) (a : Assignment ladder) :
    List Warning :=
  (a.warningKinds previous).map fun (kind, other) =>
    { feature, kind, placed := a.placed, previous := other.map (·.placed) }

end Assignment

namespace Timeline

variable {ladder : Ladder}

/-- The warnings about values in order, the first of which follows `previous`. -/
def warningsAfter (feature : String) :
    Option (Assignment ladder) → List (Assignment ladder) → List Warning
  | _, [] => []
  | previous, a :: rest => a.warnings feature previous ++ warningsAfter feature (some a) rest

/-- Places values that never fall. Data that is merely inconsistent gives warnings. -/
def ofItems (feature : String) (items : List Dated) (ladder : Ladder) :
    Except TimelineError (Timeline ladder) := do
  match firstDescent? (items.map (·.value)) with
  | some (previous, value) => throw (.unsorted feature previous value)
  | none => pure ()
  match (items.mapM Dated.assign : Except Violation (List (Assignment ladder))) with
  | .ok assignments => return ⟨assignments, warningsAfter feature none assignments⟩
  | .error v => throw (.violation feature v)

end Timeline
end FeatureTest
