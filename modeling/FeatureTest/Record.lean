import FeatureTest.Kind

/-!
Registry records as they are written down, before anything but their shape is known.
-/
namespace FeatureTest

structure RowRecord where
  value : Option Nat := none
  /-- Paper numbers between blanks. -/
  papers : Option String := none
  description : Option String := none
  drAgainst : Option String := none
  headerList : Option String := none
  /-- A removal marker, which carries nothing else that counts. -/
  removed : Bool := false
  deriving DecidableEq

structure FactRecord where
  value : Option Nat := none
  since : Option String := none
  /-- Toggling switches between blanks. -/
  option : Option String := none
  enabledBy : Option String := none
  disabledBy : Option String := none
  depends : Option String := none
  pedantic : Option Bool := none
  drAgainst : Option String := none
  removed : Bool := false
  deriving DecidableEq

structure FeatureRecord where
  name : String
  /-- Header names between blanks. -/
  headerList : Option String := none
  rows : List RowRecord := []
  /-- What is recorded for an implementation, be it nothing. -/
  support : Implementation → Option (List FactRecord) := fun _ => none

structure RegistryRecord where
  attributes : List FeatureRecord
  language : List FeatureRecord
  library : List FeatureRecord

def RegistryRecord.ofKind (r : RegistryRecord) : Kind → List FeatureRecord
  | .attributes => r.attributes
  | .language => r.language
  | .library => r.library

end FeatureTest
