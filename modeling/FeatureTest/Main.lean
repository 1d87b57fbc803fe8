import FeatureTest.Program
import FeatureTest.Script.Run

/-!
The program on a real machine. A compiler is a shell script, which is run here.
-/
namespace FeatureTest.Main

/-- The machine, and where its log goes. -/
abbrev Machine := StateT (Option Log.Logger) IO

/-- What a refusal by the machine means. -/
def fileError : IO.Error → FileError
  | .noFileOrDirectory _ _ _ => .notFound
  | .alreadyExists _ _ _ => .alreadyExists
  | .inappropriateType _ code _ => if code = 20 then .notDirectory else .isDirectory
  | .invalidArgument _ code _ => if code = 36 then .nameTooLong else .nulInPath
  | .resourceExhausted _ code _ =>
    if code = 36 then .nameTooLong else if code = 28 then .noSpace else .permissionDenied
  | _ => .permissionDenied

def attempt {α : Type} (action : IO α) : Machine (Except FileError α) := fun logger => do
  try return (.ok (← action), logger)
  catch e => return (.error (fileError e), logger)

/-- Adds the text of a file to the end of another. -/
def appendText (path text : String) : IO Unit := do
  (← IO.FS.Handle.mk path .append).putStr text

def readText (path : String) : IO (Except FileError String) := do
  match String.fromUTF8? (← IO.FS.readBinFile path) with
  | some text => return .ok text
  | none => return .error .notText

/-- The files that a command names, so that a script can read them. -/
def filesOf (command : List String) : IO FileTree :=
  command.foldlM (fun (tree : FileTree) (path : String) => do
    try
      let content ← IO.FS.readBinFile path
      return tree.install (FileTree.names path) content true
    catch _ => return tree) ⟨[], []⟩

instance : Host Machine where
  workingDirectory := return (← IO.currentDir).toString
  environment name := IO.getEnv name
  isFile path := return (← attempt (IO.FS.readBinFile path)).isOk
  readText path := return (← attempt (readText path)).bind id
  writeText path text := attempt (IO.FS.writeFile path text)
  createDirectories path := attempt (IO.FS.createDirAll path)
  compile command := return Script.compile (← filesOf command) command
  print text := do (← IO.getStdout).putStr text
  printDiagnostic text := do (← IO.getStderr).putStr text
  onTerminal := do (← IO.getStderr).isTty
  startLog logger := do
    set (some logger)
    match logger.file with
    | none => return .ok ()
    | some path => attempt (appendText path "")
  log event := do
    match (← get).bind fun logger => (logger.line? event).map (logger.file, ·) with
    | none => return
    | some (none, line) => (← IO.getStderr).putStr line
    | some (some path, line) => discard (attempt (appendText path line))

end FeatureTest.Main

def main (words : List String) : IO UInt32 := do
  let program : FeatureTest.Main.Machine Nat := FeatureTest.Program.run words
  let (code, _) ← program.run none
  return code.toUInt32
