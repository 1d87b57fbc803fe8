import FeatureTest.Import
import FeatureTest.Ingestion
import FeatureTest.JsonForm
import FeatureTest.Log.Event
import FeatureTest.SummaryTable
import FeatureTest.TestFile

/-!
What each stage of the work reports about itself.
-/
namespace FeatureTest.Log

def Field.plain (name text : String) : Field := ⟨name, .plain text⟩

def Field.quoted (name text : String) : Field := ⟨name, .quoted text⟩

def Field.natural (name : String) (value : Nat) : Field := ⟨name, .natural value⟩

def Field.kind (kind : Kind) : Field := .plain "kind" kind.name

def Field.implementation (i : Implementation) : Field := .plain "implementation" i.name

/-! ### Ingestion -/

/-- What reading one feature reports: papers that no row shows. -/
def recordEvents (r : FeatureRecord) : List Event :=
  match History.ofRecords 0 [] r.rows with
  | .ok history =>
    if history.unshown.isEmpty then []
    else [{
      level := .debug, target := .registry, message := "papers after the last row are not shown"
      fields := [⟨"papers", .list history.unshown⟩] }]
  | .error _ => []

/-- The events of reading some features, and whether all of them could be read. -/
def sectionEvents (kind : Kind) (ladder : Ladder) : List FeatureRecord → List Event × Bool
  | [] => ([], true)
  | r :: rest =>
    match Feature.ofRecord r kind ladder with
    | .ok _ =>
      let (events, complete) := sectionEvents kind ladder rest
      (recordEvents r ++ events, complete)
    | .error _ => (recordEvents r, false)

/-- The events of reading the features of some kinds, up to the first that cannot be read. -/
def kindEvents (r : RegistryRecord) (ladder : Ladder) : List Kind → List Event
  | [] => []
  | kind :: kinds =>
    let features := r.ofKind kind
    let opening : Event := {
      level := .debug, target := .registry, message := "ingesting section"
      fields := [.kind kind, .natural "features" features.length] }
    let (events, complete) := sectionEvents kind ladder features
    opening :: events ++ if complete then kindEvents r ladder kinds else []

def ingestionEvents (r : RegistryRecord) (ladder : Ladder) : List Event :=
  kindEvents r ladder Kind.all

def loadedEvent (path : String) (registry : Registry) : Event where
  level := .info
  target := .registry
  message := "loaded registry"
  fields := [.plain "path" path, .natural "features" registry.size]

def settingsEvent (path : String) : Event where
  level := .debug
  target := .registry
  message := "loaded project config"
  fields := [.plain "path" path]

/-! ### Timelines, lint reports and the summary table -/

def assignmentEvents (feature : String) (items : List Dated) (ladder : Ladder) : List Event :=
  match Timeline.ofItems feature items ladder with
  | .ok timeline => timeline.assignments.map fun a => {
      level := .trace, target := .classification, message := "classified value"
      fields := [.quoted "feature" feature, .natural "value" a.value,
        .plain "standard" (ladder.standard a.rung).name, ⟨"defect_report", .flag a.defectReport⟩] }
  | .error _ => []

def historyEvents (feature : Feature) (ladder : Ladder) : List Event :=
  assignmentEvents feature.name (feature.describedRows.map (·.dated)) ladder

def supportEvents (feature : Feature) (i : Implementation) (ladder : Ladder) : List Event :=
  assignmentEvents feature.name ((feature.supportFor i).facts.map (·.dated)) ladder

/-- What a lint report tells about itself, after the values that went into it. -/
def reportEvents (registry : Registry) (ladder : Ladder) (r : LintReport) : List Event :=
  let warnings : Field := .natural "warnings" r.warnings.length
  let events : List Event := match r.implementation with
    | none =>
      (registry.published r.kind).flatMap (historyEvents · ladder) ++
        [{ level := .debug, target := .classification, message := "linted history rows"
           fields := [warnings] }]
    | some i =>
      (registry.active r.kind i).flatMap (supportEvents · i ladder) ++
        [{ level := .debug, target := .classification, message := "linted support"
           fields := [.implementation i, warnings] }]
  events.map (Event.within ⟨.classification, "lint", [.kind r.kind]⟩)

def tableFeatureEvents (feature : Feature) (ladder : Ladder) : List Event :=
  match SummaryTable.rowsOf feature ladder with
  | .ok (rows, warnings) =>
    let counted : Event := {
      level := .debug, target := .report, message := "table rows"
      fields := [.plain "feature" feature.name, .natural "rows" rows.length,
        .natural "warnings" warnings.length] }
    let unbroken : Event := {
      level := .error, target := .report, message := "cannot find a break point"
      fields := [.quoted "name" feature.name] }
    historyEvents feature ladder ++ [counted] ++
      if !rows.isEmpty && SummaryTable.nameLimit < feature.name.utf8ByteSize &&
        (SummaryTable.breakPoint feature.name).isNone then [unbroken] else []
  | .error _ => []

def tableEvents (registry : Registry) (kind : Kind) (ladder : Ladder) : List Event :=
  if kind = .attributes then []
  else (registry.published kind).flatMap (tableFeatureEvents · ladder)

/-- A warning about a table's values. One about a stale value comes with the recorded support of
its feature, so that the two can be compared. -/
def warningEvent (registry : Registry) (kind : Kind) (w : Warning) : Event :=
  let support := if w.kind = .staleValue
    then (registry.features kind).find? (·.name == w.feature) else none
  { level := .warn, target := .program, message := w.headline
    fields := [.plain "feature" w.feature, .plain "kind" w.kind.label,
      .plain "standard" w.placed.standard, .natural "value" w.placed.value] ++
      (w.previous.map fun p => Field.quoted "previous" s!"{p.standard} {p.value}").toList ++
      (support.map fun f => Field.quoted "support" f.supportJson.compact).toList }

/-! ### Test files and imports -/

def testFileEvents (registry : Registry) (kind : Kind) (i : Implementation) : List Event :=
  let features := registry.active kind i
  let place : List Field := [.kind kind, .implementation i]
  (features.map fun f => {
    level := .debug, target := .generation, message := "generating test block"
    fields := .plain "feature" f.name :: place }) ++
  [{ level := .debug, target := .generation, message := "test file assembled"
     fields := place ++ [.natural "feature_count" features.length] }]

def importEvents (macros : List VersionDef.LibraryMacro) (summary : ImportSummary) : List Event :=
  macros.map fun m =>
    if summary.missing.contains m.name then {
      level := .warn, target := .registry, message := "cannot find macro"
      fields := [.plain "name" m.name] }
    else {
      level := .debug, target := .registry, message := "updated gcc support"
      fields := [.plain "name" m.name, .natural "values" m.values.length] }

end FeatureTest.Log
