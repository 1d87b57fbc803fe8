import FeatureTest.Lint
import FeatureTest.OptionSet
import FeatureTest.TextTable

/-!
What the terminal tables hold: the standards, the warnings, and the warnings by number.
-/
namespace FeatureTest

/-- The standards with their watermarks and the switches that select them. -/
def Ladder.overview (ladder : Ladder) : TextTable where
  style := .condensed
  columns := [("Standard", .left), ("Watermark", .right), ("gcc / clang", .left), ("msvc", .left)]
  rows := (ladder.standardSwitches .gcc).map fun (s, switch) =>
    let watermark := match s.watermark with
      | some w => toString w
      | none => "(working draft)"
    let msvc := match (ladder.standardSwitches .msvc).find? (·.1.name == s.name) with
      | some (_, msvc) => msvc
      | none => "-"
    [s.name, watermark, switch, msvc]

namespace Warning

def source (w : Warning) : String :=
  match w.implementation with
  | some i => i.name
  | none => "history"

/-- A row for each warning, with the values involved. -/
def overview (ws : List Warning) : TextTable where
  style := .condensed
  columns := [("Feature", .left), ("Source", .left), ("Warning", .left), ("Standard", .left),
    ("Value", .right), ("Previous", .left)]
  rows := ws.map fun w =>
    let previous := match w.previous with
      | some p => s!"{p.standard} {p.value}"
      | none => "-"
    [w.feature, w.source, w.kind.label, w.placed.standard, toString w.placed.value, previous]

end Warning

namespace LintReport

/-- The number of warnings of each kind, and of all. -/
def counts (r : LintReport) : List Nat :=
  WarningKind.all.map r.count ++ [r.warnings.length]

/-- The sum of a number over some reports. -/
def total (count : LintReport → Nat) (rs : List LintReport) : Nat :=
  rs.foldl (fun n r => n + count r) 0

/-- A row of numbers for each report, and one for all of them. -/
def overview (rs : List LintReport) : TextTable where
  style := .ruled
  columns := [("Kind", .left), ("Source", .left), ("Features", .right)] ++
    WarningKind.all.map (fun k => (k.label, .right)) ++ [("Total", .right)]
  rows := rs.map (fun r =>
      [r.kind.name, r.source, toString r.featuresChecked] ++ r.counts.map toString) ++
    [["TOTAL", "-", toString (total (·.featuresChecked) rs)] ++
      (List.range (WarningKind.all.length + 1)).map fun index =>
        toString (total (·.counts.getD index 0) rs)]

end LintReport
end FeatureTest
