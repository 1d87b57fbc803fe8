import FeatureTest.Ingestion
import FeatureTest.RecordReader
import FeatureTest.Yaml.Format

/-!
Registries read from YAML text.
-/
namespace FeatureTest

inductive RegistryTextError where
  /-- The text is no YAML document, or not one of a registry's shape. -/
  | malformed
  | ingestion (error : IngestionError)
  deriving DecidableEq

/-- Reads the one document of a YAML text as a registry's records. -/
def RegistryRecord.ofText? (yaml : Yaml.Format) (text : String) : Option RegistryRecord :=
  (yaml.document? text).bind (ofDocument false)

namespace Registry

/-- The registry that a text holds. Its shape is checked before anything else. -/
def ofText (yaml : Yaml.Format) (text : String) (ladder : Ladder) :
    Except RegistryTextError Registry :=
  match RegistryRecord.ofText? yaml text with
  | none => .error .malformed
  | some record => (ofRecord record ladder).mapError .ingestion

def ofYaml (text : String) (ladder : Ladder) : Except RegistryTextError Registry :=
  ofText .plain text ladder

end Registry
end FeatureTest
