import FeatureTest.Document
import FeatureTest.Record

/-!
Registry records read from documents. Reading fails where the shape is wrong: a key that is
unknown or repeated, a missing key, a scalar of another type. A removal marker counts by being
there, whatever it holds.
-/
namespace FeatureTest

namespace RowRecord

def fieldNames : List String :=
  ["value", "papers", "cppreference-description", "cppreference-treats-as-dr-against",
    "cppreference-header_list", "removed"]

def ofDocument (asList : Bool) (d : Document) : Option RowRecord := do
  let fields ← Fields.ofDocument asList fieldNames d
  return {
    value := ← fields.nullable "value" (·.value?)
    papers := ← fields.nullable "papers" (·.text?)
    description := ← fields.nullable "cppreference-description" (·.text?)
    drAgainst := ← fields.nullable "cppreference-treats-as-dr-against" (·.text?)
    headerList := ← fields.nullable "cppreference-header_list" (·.text?)
    removed := (fields.lookup "removed").isSome }

end RowRecord

namespace FactRecord

def fieldNames : List String :=
  ["value", "since", "option", "enabled-by", "disabled-by", "depends", "pedantic",
    "treats-as-dr-against", "removed"]

def ofDocument (asList : Bool) (d : Document) : Option FactRecord := do
  let fields ← Fields.ofDocument asList fieldNames d
  return {
    value := ← fields.nullable "value" (·.value?)
    since := ← fields.nullable "since" (·.text?)
    option := ← fields.nullable "option" (·.text?)
    enabledBy := ← fields.nullable "enabled-by" (·.text?)
    disabledBy := ← fields.nullable "disabled-by" (·.text?)
    depends := ← fields.nullable "depends" (·.text?)
    pedantic := ← fields.nullable "pedantic" (·.bool?)
    drAgainst := ← fields.nullable "treats-as-dr-against" (·.text?)
    removed := (fields.lookup "removed").isSome }

end FactRecord

namespace FeatureRecord

def fieldNames : List String := ["name", "header_list", "rows", "support"]

def supportEntry (asList : Bool) (entry : Document × Document) :
    Option (Implementation × List FactRecord) := do
  let implementation ← Implementation.ofName? (← entry.1.text?)
  let records ← entry.2.optional fun d => do (← d.items?).mapM (FactRecord.ofDocument asList)
  return (implementation, records.getD [])

/-- What is recorded for each implementation. Of a repeated one the last counts. -/
def supportOf (asList : Bool) (d : Document) :
    Option (Implementation → Option (List FactRecord)) := do
  let entries ← (← d.entries?).mapM (supportEntry asList)
  return fun implementation => (entries.reverse.find? (·.1 == implementation)).map (·.2)

def ofDocument (asList : Bool) (d : Document) : Option FeatureRecord := do
  let fields ← Fields.ofDocument asList fieldNames d
  return {
    name := ← fields.required "name" (·.text?)
    headerList := ← fields.nullable "header_list" (·.text?)
    rows := ← fields.defaulted "rows" [] fun d => do
      (← d.items?).mapM (RowRecord.ofDocument asList)
    support := ← fields.defaulted "support" (fun _ => none) (supportOf asList) }

end FeatureRecord

namespace RegistryRecord

def ofDocument (asList : Bool) (d : Document) : Option RegistryRecord := do
  let fields ← Fields.ofDocument asList ["attributes", "language", "library"] d
  let features (name : String) : Option (List FeatureRecord) := fields.required name fun d => do
    (← d.items?).mapM (FeatureRecord.ofDocument asList)
  return {
    attributes := ← features "attributes"
    language := ← features "language"
    library := ← features "library" }

end RegistryRecord
end FeatureTest
