import FeatureTest.Files.FileError
import FeatureTest.Files.Path
import FeatureTest.Ladder
import FeatureTest.Toml.Reader

/-!
A project's settings: where its registry and its tests lie, and the standards it counts by.
-/
namespace FeatureTest

structure Settings where
  data : Option String := none
  testDir : Option String := none
  /-- In place of the standards that are built in. -/
  standards : Option (List Standard) := none
  /-- The file that holds the settings. -/
  source : Option String := none

inductive SettingsError where
  | file (path : String) (error : FileError)
  | malformed (path : String)
  | ladder (path : String) (violation : Violation)
  deriving DecidableEq

namespace SettingsError

def message : SettingsError → String
  | file path e => s!"failed to read file {path}: " ++ e.message
  | malformed path => s!"failed to parse config {path}: invalid document"
  | ladder path v => s!"invalid standard ladder in {path}: " ++ v.message

/-- What led to the error, from the outside in. -/
def causes : SettingsError → List String
  | file path e => [(file path e).message, e.message]
  | malformed path => [(malformed path).message]
  | ladder path v => [(ladder path v).message, v.message]

end SettingsError

namespace Settings

def fileName : String := "ftm.toml"

/-- The environment variable that names the registry. -/
def dataVariable : String := "FTM_DATA"

def defaultData : String := "data.yaml"

def defaultTestDir : String := "test"

open Toml (Value Entries)

def text? : Value → Option String
  | .text t => some t
  | _ => none

def watermark? : Value → Option Nat
  | .integer n => if 0 ≤ n ∧ n ≤ 0xFFFFFFFF then some n.toNat else none
  | _ => none

/-- A standard, as a table or as the list of its fields. Other keys are passed over. -/
def standard? : Value → Option Standard
  | .table _ entries => ofEntries entries
  | .list (name :: watermark) => do
    return ⟨← text? name, ← watermark.head?.mapM watermark?⟩
  | _ => none
where
  ofEntries (entries : Entries) : Option Standard := do
    return ⟨← text? (← entries.lookup "name"), ← (entries.lookup "watermark").mapM watermark?⟩

def standards? : Value → Option (List Standard)
  | .list items => items.mapM standard?
  | .tables items => items.mapM standard?.ofEntries
  | _ => none

/-- Reads settings from their text. Keys that are unknown are refused. -/
def ofToml? (text : String) : Option Settings := do
  let entries ← Toml.read? text
  if entries.any fun (key, _) => key ∉ ["data", "test_dir", "standards"] then failure
  return {
    data := ← (entries.lookup "data").mapM text?
    testDir := ← (entries.lookup "test_dir").mapM text?
    standards := ← (entries.lookup "standards").mapM standards? }

/-- Reads the settings that a file holds. -/
def ofFile (path : String) (text : Except FileError String) : Except SettingsError Settings :=
  match text with
  | .error e => .error (.file path e)
  | .ok text =>
    match ofToml? text with
    | some settings => .ok { settings with source := some path }
    | none => .error (.malformed path)

/-- A path in the settings, as seen from the file that holds them. -/
def resolve (settings : Settings) (path : String) : String :=
  match settings.source.bind Path.parent? with
  | some directory => Path.join directory path
  | none => path

/-- The registry: as given, else by the environment unless empty, else by the settings. -/
def dataPath (settings : Settings) (given environment : Option String) : String :=
  (given <|> environment.filter (!·.isEmpty) <|> settings.data.map settings.resolve).getD defaultData

def testDirectory (settings : Settings) (given : Option String) : String :=
  (given <|> settings.testDir.map settings.resolve).getD defaultTestDir

/-- The standards that the settings list, or those built in. -/
def ladder (settings : Settings) : Except SettingsError Ladder :=
  match settings.standards with
  | none => .ok Ladder.cpp
  | some standards => (Ladder.ofStandards standards).mapError fun fault =>
    .ladder (settings.source.getD fileName) (.invalidLadder fault)

end Settings
end FeatureTest
