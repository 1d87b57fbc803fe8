import FeatureTest.Compiler
import FeatureTest.Files.FileError
import FeatureTest.Log.Line

/-!
What the program asks of the machine it runs on.
-/
namespace FeatureTest

class Host (m : Type → Type) where
  /-- Paths that are not absolute start in this directory. -/
  workingDirectory : m String
  environment (name : String) : m (Option String)
  isFile (path : String) : m Bool
  readText (path : String) : m (Except FileError String)
  /-- Replaces what the file held. -/
  writeText (path text : String) : m (Except FileError Unit)
  createDirectories (path : String) : m (Except FileError Unit)
  /-- Runs a compiler to its end. -/
  compile (command : List String) : m (Except FileError CompilerOutput)
  print (text : String) : m Unit
  printDiagnostic (text : String) : m Unit
  /-- Whether someone reads the diagnostics as they come. -/
  onTerminal : m Bool
  /-- Sets where events go from here on. -/
  startLog (logger : Log.Logger) : m (Except FileError Unit)
  log (event : Log.Event) : m Unit

end FeatureTest
