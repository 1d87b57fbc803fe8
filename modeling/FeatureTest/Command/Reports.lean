import FeatureTest.Command.Project
import FeatureTest.Overview

/-!
The commands that show what is recorded: the summary table, the lint reports and the standards.
-/
namespace FeatureTest.Project

variable {m : Type → Type} [Monad m] [Host m]

def tableSpan (kind : Kind) : Log.Span := ⟨.program, "table", [.kind kind]⟩

def logTable (kind : Kind) (events : List Log.Event) : Work m Unit :=
  Work.log (events.map (·.within (tableSpan kind)))

/-- Prints the summary table of a kind, or writes it to a file. -/
def table (project : Project) (kind : Kind) (output : Option String) (hideWarnings : Bool) :
    Work m RenderedTable := do
  let registry ← project.registry [tableSpan kind]
  logTable kind (Log.tableEvents registry kind project.ladder)
  let table ← Work.ofExcept (.table kind) (registry.summaryTable kind project.ladder)
  if !hideWarnings then logTable kind (table.warnings.map (Log.warningEvent registry kind))
  match output with
  | none => Work.printLine table.text
  | some path =>
    Work.writeText path (table.text ++ "\n")
    logTable kind [{
      level := .info, target := .program, message := "table written"
      fields := [.plain "path" path, .natural "features" table.featureCount] }]
  return table

/-- The lint reports of the whole registry, printed first if they are wanted as JSON. -/
def lint (project : Project) (asJson : Bool) : Work m (List LintReport) := do
  let registry ← project.registry []
  let reports ← Work.ofExcept .lint (registry.lint project.ladder)
  Work.log (reports.flatMap (Log.reportEvents registry project.ladder))
  if asJson then Work.printLine ((Json.list (reports.map (·.json))).pretty 0)
  return reports

def standards (project : Project) : Work m Unit := Work.printLine project.ladder.overview.text

end FeatureTest.Project
