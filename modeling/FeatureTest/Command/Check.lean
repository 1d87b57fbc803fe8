import FeatureTest.Command.Session

/-!
Running every feature's own test through a compiler, or telling what would be run.
-/
namespace FeatureTest

structure CheckOptions where
  compiler : Compiler
  extraArgs : List String := []
  /-- Writes nothing and runs nothing. -/
  dryRun : Bool := false
  showCommands : Bool := false

/-- A run that printed diagnostics. -/
structure Diagnostic where
  feature : String
  options : OptionSet
  message : String
  /-- The line of output that shows what the identifier came to. -/
  probe : Option String
  deriving DecidableEq, Repr

structure CheckOutcome where
  features : Nat := 0
  invocations : Nat := 0
  diagnostics : List Diagnostic := []
  deriving DecidableEq, Repr

/-- A file for each active feature lies in this directory below that of the tests. -/
def individualsDir : String := "individuals"

namespace Check

variable {m : Type → Type} [Monad m] [Host m]

/-- What a run says about a feature, unless it says nothing. -/
def diagnostic? (compiler : Compiler) (test : FeatureTestFile) (options : OptionSet)
    (result : CompilerOutput) : Option Diagnostic :=
  let message := compiler.diagnosticText result.diagnostics
  if message.isEmpty then none
  else some {
    feature := test.name, options, message
    probe := Compiler.probeLine? result.output test.probe }

/-- A diagnostic as it is printed. -/
def diagnosticText (d : Diagnostic) : String :=
  d.message ++ "\n" ++ "compiler options:  " ++ " ".intercalate d.options ++
    (match d.probe with
      | some line => "\n" ++ line
      | none => "")

/-- Runs one command, or shows it in a dry run. -/
def runInvocation (check : CheckOptions) (test : FeatureTestFile) (path : String)
    (outcome : CheckOutcome) (options : OptionSet) : Work m CheckOutcome := do
  let command := check.compiler.commandLine check.extraArgs options path
  if check.dryRun || check.showCommands then Work.printLine (Compiler.display command)
  let outcome := { outcome with invocations := outcome.invocations + 1 }
  if check.dryRun then return outcome
  let result ← Work.ask (.run check.compiler.program) (Host.compile command)
  match diagnostic? check.compiler test options result with
  | none => return outcome
  | some d =>
    Work.printLine (diagnosticText d)
    return { outcome with diagnostics := outcome.diagnostics ++ [d] }

/-- Writes a feature's test and runs it under each of its option sets. -/
def runFeature (check : CheckOptions) (ladder : Ladder) (implementation : Implementation)
    (directory : String) (span : Log.Span) (outcome : CheckOutcome) (feature : Feature) :
    Work m CheckOutcome := do
  let test ← Work.ofExcept (.featureTest feature.name) (feature.testFile implementation ladder)
  let path := Path.join directory (test.name ++ ".cpp")
  if check.dryRun then Work.printLine s!"Would create {path}"
  else Work.writeText path test.source
  let outcome := { outcome with features := outcome.features + 1 }
  let outcome ← test.invocations.foldlM (runInvocation check test path) outcome
  Work.log [{
    level := .debug, target := .commands, message := "feature checked"
    fields := [.plain "feature" test.name, .natural "invocations" test.invocations.length]
    spans := [span] }]
  return outcome

/-- Checks the active features in their order. -/
def run (check : CheckOptions) (registry : Registry) (ladder : Ladder) (kind : Kind)
    (implementation : Implementation) (testDir : String) : Work m CheckOutcome := do
  let span : Log.Span := ⟨.commands, "check", [.kind kind, .implementation implementation]⟩
  let directory := Path.join testDir individualsDir
  if check.dryRun then
    Work.printLine "Dry run..."
    Work.printLine s!"Would touch {directory}"
  else Work.createDirectories directory
  let outcome ← (registry.active kind implementation).foldlM
    (runFeature check ladder implementation directory span) {}
  Work.log [{
    level := .info, target := .commands, message := "check finished"
    fields := [.natural "features" outcome.features, .natural "invocations" outcome.invocations,
      .natural "diagnostics" outcome.diagnostics.length]
    spans := [span] }]
  return outcome

end Check
end FeatureTest
