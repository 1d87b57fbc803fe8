import FeatureTest.Command.Session

/-!
A project: its settings, the standards it counts by, and where its registry lies.
-/
namespace FeatureTest

structure Project where
  settings : Settings
  ladder : Ladder
  dataPath : String

namespace Registry

variable {m : Type → Type} [Monad m] [Host m]

/-- What reading a registry's text reports. -/
def textEvents (yaml : Yaml.Format) (text : String) (ladder : Ladder) : List Log.Event :=
  match RegistryRecord.ofText? yaml text with
  | some record => Log.ingestionEvents record ladder
  | none => []

/-- The registry that a file holds. The events lie inside the given spans. -/
def load (spans : List Log.Span) (path : String) (ladder : Ladder) :
    m (Except LoadError Registry) := do
  let log (events : List Log.Event) : m Unit := events.forM fun e => Host.log { e with spans }
  match ← Host.readText path with
  | .error e => return .error (.file e)
  | .ok text =>
    log (textEvents .plain text ladder)
    match ofYaml text ladder with
    | .error e => return .error (.text e)
    | .ok registry =>
      log [Log.loadedEvent path registry]
      return .ok registry

end Registry

namespace Project

variable {m : Type → Type} [Monad m] [Host m]

def loadSettings (path : String) : Work m Settings := do
  let settings ← Work.ofExcept .settings (Settings.ofFile path (← Host.readText (m := m) path))
  Work.log [Log.settingsEvent path]
  return settings

/-- The settings of a given file, or those in the working directory if it has any. -/
def findSettings : Option String → Work m Settings
  | some path => loadSettings path
  | none => do
    let path := Path.join (← Host.workingDirectory (m := m)) Settings.fileName
    if ← Host.isFile (m := m) path then loadSettings path else return {}

def locate (data config : Option String) : Work m Project := do
  let settings ← findSettings config
  let ladder ← Work.ofExcept .settings settings.ladder
  let named ← Host.environment (m := m) Settings.dataVariable
  return { settings, ladder, dataPath := settings.dataPath data named }

def registry (project : Project) (spans : List Log.Span) : Work m Registry := do
  match ← Registry.load (m := m) spans project.dataPath project.ladder with
  | .ok registry => return registry
  | .error e => throw (.loadRegistry project.dataPath e)

end Project
end FeatureTest
