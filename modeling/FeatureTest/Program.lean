import FeatureTest.Command.Check
import FeatureTest.Command.Generate
import FeatureTest.Command.ImportLibrary
import FeatureTest.Command.Reports
import FeatureTest.CommandLine

/-!
The whole program: from the words it was called with to its exit code.
-/
namespace FeatureTest.Program

variable {m : Type → Type} [Monad m] [Host m]

def version : String := "0.1.0"

def usage : String :=
  "Usage: ftm [OPTIONS] <COMMAND>\n\nCommands: " ++
    ", ".intercalate (Verb.all.map (·.name)) ++ "\n"

/-- The environment variable that holds a log filter. -/
def logVariable : String := "RUST_LOG"

def printTable (print : String → m Unit) (ws : List Warning) : m Unit :=
  if ws.isEmpty then pure () else print ((Warning.overview ws).text ++ "\n")

/-- Does what is asked for and gives the exit code. -/
def perform (project : Project) : Action → Work m Nat
  | .generate testDir => do
    let registry ← project.registry []
    let paths ← Generate.run registry project.ladder (project.settings.testDirectory testDir)
    Work.printLine s!"Wrote {paths.length} test files"
    return 0
  | .table kind output hideWarnings => do
    let table ← project.table kind output hideWarnings
    if !hideWarnings then printTable (m := m) Host.printDiagnostic table.warnings
    return 0
  | .check implementation kind cc testDir dryRun showCommands extraArgs => do
    let registry ← project.registry []
    let check : CheckOptions :=
      { compiler := .resolve implementation cc, extraArgs, dryRun, showCommands }
    let outcome ← Check.run check registry project.ladder kind implementation
      (project.settings.testDirectory testDir)
    if outcome.diagnostics.isEmpty then return 0
    Host.printDiagnostic (m := m) (s!"{outcome.diagnostics.length} of {outcome.invocations} " ++
      "compiler runs produced diagnostics\n")
    return 1
  | .lint asJson => do
    let reports ← project.lint asJson
    if !asJson then
      printTable (m := m) Host.print (reports.flatMap (·.warnings))
      Work.printLine (LintReport.overview reports).text
    return 0
  | .importLibrary definitions output => do
    let summary ← project.importLibrary .plain definitions output
    Work.printLine (s!"Updated {summary.updated.length} macros; " ++
      s!"{summary.missing.length} not in the registry")
    return 0
  | .standards => do
    project.standards
    return 0

/-- Opens the project and does what is asked for. -/
def execute (invocation : Invocation) : m Nat := do
  let work : Work m Nat := do
    let project ← Project.locate invocation.data invocation.config
    perform project invocation.action
  match ← work.run with
  | .ok code => return code
  | .error e =>
    Host.printDiagnostic s!"error: {e.message}\n"
    return 1

def run (words : List String) : m Nat := do
  match Invocation.ofWords words with
  | .error .misuse =>
    Host.printDiagnostic usage
    return 2
  | .error .help =>
    Host.print usage
    return 0
  | .error .version =>
    Host.print s!"ftm {version}\n"
    return 0
  | .ok invocation =>
    let logger := invocation.log.logger (← Host.environment logVariable) (← Host.onTerminal)
    match ← Host.startLog logger with
    | .error e =>
      Host.printDiagnostic s!"error: failed to initialize logging: {e.message}\n"
      return 1
    | .ok () => execute invocation

end FeatureTest.Program
