import FeatureTest.Command.Error
import FeatureTest.Host
import FeatureTest.Log.Progress

/-!
Commands at work: what they ask of the machine, where any refusal ends them.
-/
namespace FeatureTest

/-- A piece of a command, on some machine. -/
abbrev Work (m : Type → Type) := ExceptT CommandError m

namespace Work

variable {m : Type → Type} [Monad m] {α : Type}

/-- Asks for something that may be refused. -/
def ask (toError : FileError → CommandError) (request : m (Except FileError α)) : Work m α := do
  match ← request with
  | .ok a => return a
  | .error e => throw (toError e)

def ofExcept {ε : Type} (toError : ε → CommandError) (result : Except ε α) : Work m α :=
  match result with
  | .ok a => return a
  | .error e => throw (toError e)

def log [Host m] (events : List Log.Event) : Work m Unit := events.forM fun e => Host.log (m := m) e

def printLine [Host m] (line : String) : Work m Unit := Host.print (m := m) (line ++ "\n")

def createDirectories [Host m] (path : String) : Work m Unit :=
  ask (.create path) (Host.createDirectories path)

def writeText [Host m] (path text : String) : Work m Unit :=
  ask (.write path) (Host.writeText path text)

def readText [Host m] (path : String) : Work m String := ask (.read path) (Host.readText path)

end Work
end FeatureTest
