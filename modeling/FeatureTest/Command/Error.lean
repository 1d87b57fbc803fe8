import FeatureTest.Condition
import FeatureTest.Files.FileError
import FeatureTest.Import
import FeatureTest.Loading
import FeatureTest.Settings
import FeatureTest.SummaryTable

/-!
What stops a command, told from the outside in: what the command was doing, and each cause in turn.
-/
namespace FeatureTest

def IngestionError.violation : IngestionError → Violation
  | feature _ v | support _ _ v => v

def IngestionError.causes (e : IngestionError) : List String := [e.message, e.violation.message]

def RegistryTextError.causes (path : String) : RegistryTextError → List String
  | malformed => [s!"failed to parse registry {path}: invalid document"]
  | ingestion e => e.causes

/-- Why a registry file gives no registry. -/
inductive LoadError where
  | file (error : FileError)
  | text (error : RegistryTextError)
  deriving DecidableEq

namespace LoadError

def fileMessage (path : String) (e : FileError) : String :=
  s!"failed to read file {path}: " ++ e.message

def causes (path : String) : LoadError → List String
  | file e => [fileMessage path e, e.message]
  | text e => e.causes path

end LoadError

def GenerationError.causes : GenerationError → List String
  | inFeature feature source => (inFeature feature source).message :: source.causes
  | e => [e.message]

def TimelineError.causes : TimelineError → List String
  | violation feature v => [(violation feature v).message, v.message]
  | unsorted feature previous value => [(unsorted feature previous value).message]

def TableError.causes : TableError → List String
  | unsupportedKind kind => [(unsupportedKind kind).message]
  | timeline e => e.causes

inductive CommandError where
  | settings (error : SettingsError)
  | loadRegistry (path : String) (error : LoadError)
  | create (path : String) (error : FileError)
  | write (path : String) (error : FileError)
  | read (path : String) (error : FileError)
  | run (program : String) (error : FileError)
  | testFile (kind : Kind) (implementation : Implementation) (error : GenerationError)
  | featureTest (feature : String) (error : GenerationError)
  | lint (error : TimelineError)
  | table (kind : Kind) (error : TableError)
  | versionDef (path : String) (error : VersionDef.EntryError)
  /-- A document to update is no YAML. -/
  | document (path : String)
  | noLibrary
  /-- An updated document that has no text. -/
  | unwritable (message : String)
  /-- What an update made of the registry is none. -/
  | updated (error : RegistryTextError)
  deriving DecidableEq

namespace CommandError

def causes : CommandError → List String
  | settings (.ladder path v) => "load standard ladder" :: (SettingsError.ladder path v).causes
  | settings e => "load project config" :: e.causes
  | loadRegistry path e => s!"load registry {path}" :: e.causes path
  | create path e => [s!"create {path}", e.message]
  | write path e => [s!"write {path}", e.message]
  | read path e => [s!"read {path}", e.message]
  | run program e => [s!"run {program}", e.message]
  | testFile kind i e => s!"generate {kind.name} tests for {i.name}" :: e.causes
  | featureTest feature e => s!"generate test for {feature}" :: e.causes
  | lint e => "classify registry" :: e.causes
  | table kind e => s!"render {kind.name} table" :: e.causes
  | versionDef path e => [s!"parse {path}", e.message]
  | document path => [s!"parse {path}", "invalid document"]
  | noLibrary => [Import.noLibraryMessage]
  | unwritable message => ["serialize registry", message]
  | updated e => "updated registry is invalid" :: e.causes "<inline>"

def message (e : CommandError) : String := ": ".intercalate e.causes

end CommandError
end FeatureTest
