import FeatureTest.Fact
import FeatureTest.Kind

/-!
Features, each a named identifier with its published history and its recorded support, and the
registry that holds them in order.
-/
namespace FeatureTest

/-- One published value of an identifier. -/
structure HistoryRow where
  value : Nat
  papers : List String := []
  /-- What the table says; a row without a description only passes its papers on. -/
  description : Option String := none
  drAgainst : Option String := none
  /-- The row's own headers, in place of the feature's. -/
  headers : Option (List String) := none
  deriving DecidableEq

structure Feature where
  name : String
  kind : Kind
  headers : Option (List String) := none
  rows : List HistoryRow := []
  /-- Withdrawn from every implementation. -/
  removed : Bool := false
  support : Implementation → Option SupportList := fun _ => none

namespace Feature

/-- Replaces the history by rows whose values never fall. -/
def withRows (feature : Feature) (rows : List HistoryRow) (removed : Bool) (ladder : Ladder) :
    Except Violation Feature := do
  match firstDescent? (rows.map (·.value)) with
  | some (previous, value) => throw (.unsortedValues previous value)
  | none => pure ()
  (rows.filterMap (·.drAgainst)).forM fun name => discard (ladder.require name)
  return { feature with rows, removed }

def withSupport (feature : Feature) (implementation : Implementation) (support : SupportList) :
    Feature :=
  { feature with support := fun i => if i = implementation then some support else feature.support i }

/-- The recorded support, empty where nothing is recorded. -/
def supportFor (feature : Feature) (implementation : Implementation) : SupportList :=
  (feature.support implementation).getD .empty

def isRemovedFor (feature : Feature) (implementation : Implementation) : Bool :=
  feature.removed || (feature.supportFor implementation).removed

/-- The rows that a table shows. -/
def describedRows (feature : Feature) : List HistoryRow :=
  feature.rows.filter (·.description.isSome)

def hasDescription (feature : Feature) : Bool := feature.rows.any (·.description.isSome)

end Feature

/-- Features in the order they were recorded. -/
structure Registry where
  entries : List Feature

namespace Registry

def empty : Registry := ⟨[]⟩

def push (registry : Registry) (feature : Feature) : Registry := ⟨registry.entries ++ [feature]⟩

def features (registry : Registry) (kind : Kind) : List Feature :=
  registry.entries.filter (·.kind == kind)

/-- The features of `kind` that `implementation` still has. -/
def active (registry : Registry) (kind : Kind) (implementation : Implementation) : List Feature :=
  (registry.features kind).filter (!·.isRemovedFor implementation)

/-- The features of `kind` that are not withdrawn everywhere. -/
def published (registry : Registry) (kind : Kind) : List Feature :=
  (registry.features kind).filter (!·.removed)

def size (registry : Registry) : Nat := registry.entries.length

end Registry
end FeatureTest
