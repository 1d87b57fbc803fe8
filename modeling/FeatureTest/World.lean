import FeatureTest.Files.FileTree
import FeatureTest.Host

/-!
A machine as a value: its files, its compilers as functions, and what was printed on it.
-/
namespace FeatureTest

inductive Report where
  | text (text : String)
  | event (event : Log.Event)

structure World where
  files : FileTree
  /-- The path of the directory that the program runs in. -/
  directory : String
  environment : List (String × String) := []
  /-- What a command prints, given the files it may read. -/
  compile : FileTree → List String → Except FileError CompilerOutput := fun _ _ => .error .notFound
  /-- What stops the device while it writes a text to a path, and after how many bytes. -/
  fault : String → String → Option (Nat × FileError) := fun _ _ => none
  /-- The commands that were run. -/
  commands : List (List String) := []
  output : String := ""
  logger : Option Log.Logger := none
  /-- Diagnostics and events in the order they came. -/
  reports : List Report := []

namespace World

/-- The lines of the events that pass. -/
def logLine (w : World) (e : Log.Event) : String := (w.logger.bind (·.line? e)).getD ""

def logFile? (w : World) : Option String := w.logger.bind (·.file)

/-- What was printed as diagnostics. Log lines are among them unless they go to a file. -/
def diagnostics (w : World) : String :=
  String.join (w.reports.map fun
    | .text t => t
    | .event e => if w.logFile?.isSome then "" else w.logLine e)

/-- The lines for the log file. -/
def logText (w : World) : String :=
  String.join (w.reports.map fun
    | .text _ => ""
    | .event e => w.logLine e)

/-- The files once the log has been written to its own. -/
def finalFiles (w : World) : FileTree :=
  match w.logFile? with
  | none => w.files
  | some path => (w.files.appendText path w.logText).toOption.getD w.files

/-- Changes the files, unless that is refused. -/
def changeFiles (change : FileTree → Except FileError FileTree) :
    StateM World (Except FileError Unit) := fun w =>
  match change w.files with
  | .ok files => (.ok (), { w with files })
  | .error e => (.error e, w)

/-- How it ends when a text is written to a file, and the files after that. Opening the file empties
it, so that after a fault it holds what was written until then and nothing that it held before. -/
def save (w : World) (path text : String) : Except FileError Unit × FileTree :=
  let (content, answer) := match w.fault path text with
    | none => (text.toUTF8, .ok ())
    | some (taken, e) => (text.toUTF8.extract 0 taken, .error e)
  match w.files.writeBytes path content with
  | .ok files => (answer, files)
  | .error e => (.error e, w.files)

instance : Host (StateM World) where
  workingDirectory := return (← get).directory
  environment name := return (← get).environment.lookup name
  isFile path := return (← get).files.isFile path
  readText path := return (← get).files.readText path
  writeText path text := fun w =>
    let (answer, files) := w.save path text
    (answer, { w with files })
  createDirectories path := changeFiles (·.createDirectories path)
  compile command := fun w =>
    (w.compile w.files command, { w with commands := w.commands ++ [command] })
  print text := modify fun w => { w with output := w.output ++ text }
  printDiagnostic text := modify fun w => { w with reports := w.reports ++ [.text text] }
  onTerminal := return false
  startLog logger := do
    modify ({ · with logger := some logger })
    match logger.file with
    | none => return .ok ()
    | some path => changeFiles (·.appendText path "")
  log event := modify fun w => { w with reports := w.reports ++ [.event event] }

end World
end FeatureTest
