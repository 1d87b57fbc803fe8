import FeatureTest.Feature
import FeatureTest.Record
import FeatureTest.Text.Blank

/-!
Ingestion: records become features, or the first malformed one is refused. What passes here is
well-formed for everything downstream.
-/
namespace FeatureTest

/-- The words of a list that may be missing. -/
def wordsOf (list : Option String) : List String := (list.map Text.words).getD []

/-- History rows as read from their records. -/
structure History where
  rows : List HistoryRow
  removed : Bool
  /-- Papers after the last row, which no row shows. -/
  unshown : List String

/-- Reads rows from the one numbered `index` on. A row without a value hands its papers, after the
`pending` ones, to the next row that has one. -/
def History.ofRecords (index : Nat) (pending : List String) :
    List RowRecord → Except Violation History
  | [] => .ok ⟨[], false, pending⟩
  | r :: rest =>
    if r.removed then
      if rest.isEmpty then .ok ⟨[], true, pending⟩ else .error .misplacedRemoval
    else
      let papers := pending ++ wordsOf r.papers
      match r.value with
      | none =>
        if r.description.isSome then .error (.missingValue index)
        else ofRecords (index + 1) papers rest
      | some value => do
        let history ← ofRecords (index + 1) [] rest
        let row : HistoryRow := {
          value, papers
          description := r.description
          drAgainst := r.drAgainst
          headers := r.headerList.map Text.words }
        return { history with rows := row :: history.rows }

namespace Fact

/-- Reads the fact numbered `index`. -/
def ofRecord (index : Nat) (r : FactRecord) : Except Violation Fact := do
  let some value := r.value | throw (.missingValue index)
  let toggles ← (wordsOf r.option).mapM Toggle.ofSpelling
  let enabledBy ← (wordsOf r.enabledBy).mapM Switch.ofSpelling
  let disabledBy ← (wordsOf r.disabledBy).mapM Switch.ofSpelling
  if r.pedantic = some true then throw (.pedanticEnabled value)
  return {
    value, toggles, enabledBy, disabledBy
    since := r.since
    depends := r.depends
    strictSensitive := r.pedantic = some false
    drAgainst := r.drAgainst }

/-- Reads facts from the one numbered `index` on, and whether a removal marker ends them. -/
def ofRecords (index : Nat) : List FactRecord → Except Violation (List Fact × Bool)
  | [] => .ok ([], false)
  | r :: rest =>
    if r.removed then
      if rest.isEmpty then .ok ([], true) else .error .misplacedRemoval
    else do
      let fact ← ofRecord index r
      let (facts, removed) ← ofRecords (index + 1) rest
      return (fact :: facts, removed)

end Fact

def SupportList.ofRecords (records : List FactRecord) (ladder : Ladder) :
    Except Violation SupportList := do
  let (facts, removed) ← Fact.ofRecords 0 records
  SupportList.ofFacts facts removed ladder

inductive IngestionError where
  | feature (name : String) (violation : Violation)
  | support (name : String) (implementation : Implementation) (violation : Violation)
  deriving DecidableEq

def IngestionError.message : IngestionError → String
  | feature name v => s!"{name}: " ++ v.message
  | support name implementation v => s!"{name}: {implementation.name} support: " ++ v.message

namespace Feature

/-- Reads a feature's history. -/
def ofHistory (r : FeatureRecord) (kind : Kind) (ladder : Ladder) : Except Violation Feature := do
  let history ← History.ofRecords 0 [] r.rows
  let feature : Feature := { name := r.name, kind, headers := r.headerList.map Text.words }
  feature.withRows history.rows history.removed ladder

/-- Adds what is recorded for one implementation. -/
def addSupport (r : FeatureRecord) (ladder : Ladder) (feature : Feature)
    (implementation : Implementation) : Except IngestionError Feature :=
  match r.support implementation with
  | none => .ok feature
  | some records =>
    match SupportList.ofRecords records ladder with
    | .ok support => .ok (feature.withSupport implementation support)
    | .error v => .error (.support r.name implementation v)

def ofRecord (r : FeatureRecord) (kind : Kind) (ladder : Ladder) : Except IngestionError Feature :=
  match ofHistory r kind ladder with
  | .ok feature => Implementation.all.foldlM (addSupport r ladder) feature
  | .error v => .error (.feature r.name v)

end Feature

def Registry.ofRecord (r : RegistryRecord) (ladder : Ladder) : Except IngestionError Registry := do
  let features ← Kind.all.mapM fun kind => (r.ofKind kind).mapM (Feature.ofRecord · kind ladder)
  return ⟨features.flatten⟩

end FeatureTest
