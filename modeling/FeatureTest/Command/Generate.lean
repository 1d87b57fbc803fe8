import FeatureTest.Command.Session

/-!
Writing the test file of every kind and implementation.
-/
namespace FeatureTest.Generate

variable {m : Type → Type} [Monad m] [Host m]

def directory (testDir : String) (kind : Kind) : String := Path.join testDir kind.name

def filePath (testDir : String) (kind : Kind) (i : Implementation) : String :=
  Path.join (directory testDir kind) (i.name ++ ".cpp")

def span (kind : Kind) : Log.Span := ⟨.commands, "generate", [.kind kind]⟩

/-- Writes one test file and gives its path. -/
def writeFile (registry : Registry) (ladder : Ladder) (testDir : String) (kind : Kind)
    (i : Implementation) : Work m String := do
  Work.log ((Log.testFileEvents registry kind i).map (·.within (span kind)))
  let text ← Work.ofExcept (.testFile kind i) (registry.testFile kind i ladder)
  let path := filePath testDir kind i
  Work.writeText path text
  Work.log [{
    level := .debug, target := .commands, message := "wrote test file"
    fields := [.plain "path" path], spans := [span kind] }]
  return path

def writeKind (registry : Registry) (ladder : Ladder) (testDir : String) (kind : Kind) :
    Work m (List String) := do
  Work.createDirectories (directory testDir kind)
  Implementation.all.mapM (writeFile registry ladder testDir kind)

/-- Writes all test files and gives their paths. -/
def run (registry : Registry) (ladder : Ladder) (testDir : String) : Work m (List String) := do
  let paths ← Kind.all.mapM (writeKind registry ladder testDir)
  Work.log [{
    level := .info, target := .commands, message := "test files written"
    fields := [.natural "files" paths.flatten.length] }]
  return paths.flatten

end FeatureTest.Generate
