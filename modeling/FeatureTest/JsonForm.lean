import FeatureTest.Json
import FeatureTest.Lint

/-!
The JSON forms of registries and of the reports about them.
-/
namespace FeatureTest

def Switch.json (s : Switch) : Json :=
  .object [("spelling", .text s.spelling), ("identifier", .text s.identifier)]

def Toggle.json (t : Toggle) : Json :=
  .object [("enable", t.enable.json), ("disable", t.disable.json)]

def Fact.json (f : Fact) : Json :=
  .object [
    ("value", .natural f.value),
    ("since", .ofOption .text f.since),
    ("toggle", .list (f.toggles.map (·.json))),
    ("enabled_by", .list (f.enabledBy.map (·.json))),
    ("disabled_by", .list (f.disabledBy.map (·.json))),
    ("depends", .ofOption .text f.depends),
    ("strict_sensitive", .bool f.strictSensitive),
    ("dr_against", .ofOption .text f.drAgainst)]

def SupportList.json (s : SupportList) : Json :=
  .object [("facts", .list (s.facts.map (·.json))), ("removed", .bool s.removed)]

def HistoryRow.json (r : HistoryRow) : Json :=
  .object [
    ("value", .natural r.value),
    ("papers", .texts r.papers),
    ("description", .ofOption .text r.description),
    ("dr_against", .ofOption .text r.drAgainst),
    ("header_list", .ofOption .texts r.headers)]

/-- The support of every implementation that has some recorded. -/
def Feature.supportJson (f : Feature) : Json :=
  .object (Implementation.all.filterMap fun i => (f.support i).map fun s => (i.name, s.json))

def Feature.json (f : Feature) : Json :=
  .object [
    ("name", .text f.name),
    ("kind", .text f.kind.name),
    ("header_list", .ofOption .texts f.headers),
    ("rows", .list (f.rows.map (·.json))),
    ("removed", .bool f.removed),
    ("support", f.supportJson)]

/-- The features of every kind that has any. -/
def Registry.json (r : Registry) : Json :=
  .object [("features", .object (Kind.all.filterMap fun kind =>
    let features := r.features kind
    if features.isEmpty then none else some (kind.name, .list (features.map (·.json)))))]

def Placed.json (p : Placed) : Json :=
  .object [("standard", .text p.standard), ("value", .natural p.value)]

def Warning.json (w : Warning) : Json :=
  .object (
    [("feature", .text w.feature)] ++
    (w.implementation.map fun i => ("implementation", Json.text i.name)).toList ++
    [("kind", .text w.kind.fullName), ("standard", .text w.placed.standard),
      ("value", .natural w.placed.value)] ++
    (w.previous.map fun p => ("previous", p.json)).toList)

def LintReport.json (r : LintReport) : Json :=
  .object [
    ("kind", .text r.kind.name),
    ("implementation", .ofOption (fun i => .text i.name) r.implementation),
    ("features_checked", .natural r.featuresChecked),
    ("warnings", .list (r.warnings.map (·.json)))]

end FeatureTest
