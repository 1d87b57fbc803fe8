import FeatureTest.Proofs.RunDiagnostics
import FeatureTest.Proofs.WorkSteps
import FeatureTest.Proofs.WrittenFiles

/-!
What a check does, dry or not: its plan, and what each run, each test and the whole of it leave on
the machine.
-/
namespace FeatureTest

/-- What a check sets out to do: the tests of its features in their order, up to a feature that has
none. -/
structure CheckPlan where
  tests : List FeatureTestFile
  stop : Option CommandError := none

def FeatureTestFile.runs (test : FeatureTestFile) : List (FeatureTestFile × OptionSet) :=
  test.invocations.map (test, ·)

namespace CheckPlan

def runs (plan : CheckPlan) : List (FeatureTestFile × OptionSet) := plan.tests.flatMap (·.runs)

/-- How a check ends when it has come to the end of its plan. -/
def ended (plan : CheckPlan) (outcome : CheckOutcome) : Except CommandError CheckOutcome :=
  match plan.stop with
  | none => .ok outcome
  | some e => .error e

end CheckPlan

/-- A compiler that is a function of its command and of the file that the command names last. -/
def CompilesBy (cc : List String → String → CompilerOutput)
    (compile : FileTree → List String → Except FileError CompilerOutput) : Prop :=
  ∀ files command file source, command.getLast? = some file → files.readText file = .ok source →
    compile files command = .ok (cc command source)

namespace Check
open World Success

def plan (implementation : Implementation) (ladder : Ladder) : List Feature → CheckPlan
  | [] => { tests := [] }
  | feature :: rest =>
    match feature.testFile implementation ladder with
    | .ok test => { plan implementation ladder rest with
        tests := test :: (plan implementation ladder rest).tests }
    | .error e => { tests := [], stop := some (.featureTest feature.name e) }

def checkedEvent (span : Log.Span) (test : FeatureTestFile) : Log.Event :=
  { level := .debug, target := .commands, message := "feature checked"
    fields := [.plain "feature" test.name, .natural "invocations" test.invocations.length]
    spans := [span] }

def finishedEvent (span : Log.Span) (outcome : CheckOutcome) : Log.Event :=
  { level := .info, target := .commands, message := "check finished"
    fields := [.natural "features" outcome.features, .natural "invocations" outcome.invocations,
      .natural "diagnostics" outcome.diagnostics.length]
    spans := [span] }

def checkSpan (kind : Kind) (implementation : Implementation) : Log.Span :=
  ⟨.commands, "check", [.kind kind, .implementation implementation]⟩

/-- What a check reports: each test when it is done, and the end unless it stops. -/
def events (plan : CheckPlan) (span : Log.Span) (outcome : CheckOutcome) : List Log.Event :=
  plan.tests.map (checkedEvent span) ++
    if plan.stop.isNone then [finishedEvent span outcome] else []

section Doings

variable (check : CheckOptions) (directory : String) (cc : List String → String → CompilerOutput)

def testPath (test : FeatureTestFile) : String := Path.join directory (test.name ++ ".cpp")

def command (run : FeatureTestFile × OptionSet) : List String :=
  check.compiler.commandLine check.extraArgs run.2 (testPath directory run.1)

def shown (run : FeatureTestFile × OptionSet) : String :=
  Compiler.display (command check directory run)

/-- What the compiler makes of a test under some options. -/
def compiled (run : FeatureTestFile × OptionSet) : CompilerOutput :=
  cc (command check directory run) run.1.source

def found (run : FeatureTestFile × OptionSet) : List Diagnostic :=
  if check.dryRun then []
  else (diagnostic? check.compiler run.1 run.2 (compiled check directory cc run)).toList

def ran (run : FeatureTestFile × OptionSet) : List (List String) :=
  if check.dryRun then [] else [command check directory run]

def told (run : FeatureTestFile × OptionSet) : List String :=
  (if check.dryRun || check.showCommands then [shown check directory run] else []) ++
    (found check directory cc run).map diagnosticText

def announced (test : FeatureTestFile) : List String :=
  if check.dryRun then [s!"Would create {testPath directory test}"] else []

/-- What is told of one test. -/
def testLines (test : FeatureTestFile) : List String :=
  announced check directory test ++ test.runs.flatMap (told check directory cc)

/-- What is told before the tests. -/
def opening : List String :=
  if check.dryRun then ["Dry run...", s!"Would touch {directory}"] else []

def prepare (files : FileTree) : Except FileError FileTree :=
  if check.dryRun then .ok files else files.createDirectories directory

def writeTest (files : FileTree) (test : FeatureTestFile) : Except FileError FileTree :=
  if check.dryRun then .ok files else files.writeText (testPath directory test) test.source

/-- Nothing stops the device while the tests are written, if they are. -/
def Unimpeded (w : World) (tests : List FeatureTestFile) : Prop :=
  check.dryRun = false → ∀ test ∈ tests, w.fault (testPath directory test) test.source = none

/-- The outcome after some features and some runs more. -/
def counted (outcome : CheckOutcome) (features : Nat) (runs : List (FeatureTestFile × OptionSet)) :
    CheckOutcome :=
  { features := outcome.features + features
    invocations := outcome.invocations + runs.length
    diagnostics := outcome.diagnostics ++ runs.flatMap (found check directory cc) }

end Doings

section Runs

variable {check : CheckOptions} {directory : String} {cc : List String → String → CompilerOutput}
  {w : World} {outcome : CheckOutcome}

theorem counted_counted (features features' : Nat)
    (runs runs' : List (FeatureTestFile × OptionSet)) :
    counted check directory cc (counted check directory cc outcome features runs) features' runs' =
      counted check directory cc outcome (features + features') (runs ++ runs') := by
  simp [counted, Nat.add_assoc]

theorem counted_nothing : counted check directory cc outcome 0 [] = outcome := by
  simp [counted]

theorem command_file (run : FeatureTestFile × OptionSet) :
    (command check directory run).getLast? = some (testPath directory run.1) :=
  List.getLast?_concat

/-- Once its command is settled, a run that is no dry one goes through the compiler. -/
theorem perform_compiled (outcome : CheckOutcome) (run : FeatureTestFile × OptionSet)
    (hd : check.dryRun = false) (hc : CompilesBy cc w.compile)
    (hread : w.files.readText (testPath directory run.1) = .ok run.1.source) :
    w.perform (do
      let result ← Work.ask (.run check.compiler.program)
        (Host.compile (command check directory run))
      match diagnostic? check.compiler run.1 run.2 result with
      | none => return { outcome with invocations := outcome.invocations + 1 }
      | some d =>
        Work.printLine (diagnosticText d)
        return { outcome with
          invocations := outcome.invocations + 1, diagnostics := outcome.diagnostics ++ [d] }) =
      (.ok (counted check directory cc outcome 0 [run]),
        w.advanced w.files (ran check directory run)
          ((found check directory cc run).map diagnosticText) []) := by
  have hrun : w.perform (Work.ask (.run check.compiler.program)
      (Host.compile (command check directory run))) =
      (.ok (compiled check directory cc run),
        w.advanced w.files [command check directory run] [] []) := by
    rw [perform_compile, hc w.files _ _ _ (command_file run) hread]
    rfl
  rw [perform_bind_of_ok hrun]
  cases h : diagnostic? check.compiler run.1 run.2 (compiled check directory cc run) with
  | none =>
    rw [perform_pure]
    simp [counted, found, ran, hd, h]
  | some d =>
    rw [perform_bind_of_ok (perform_print_line _ _), perform_pure, advanced_advanced]
    simp [counted, found, ran, hd, h, advanced]

theorem perform_invocation (hc : CompilesBy cc w.compile) {test : FeatureTestFile}
    (hread : check.dryRun = false → w.files.readText (testPath directory test) = .ok test.source)
    (options : OptionSet) :
    w.perform (runInvocation check test (testPath directory test) outcome options) =
      (.ok (counted check directory cc outcome 0 [(test, options)]),
        w.advanced w.files (ran check directory (test, options))
          (told check directory cc (test, options)) []) := by
  unfold runInvocation
  cases hd : check.dryRun with
  | true =>
    simp only [Bool.true_or, if_true]
    rw [perform_bind_of_ok (perform_print_line _ _), perform_pure]
    simp [counted, found, ran, told, hd, shown, command]
  | false =>
    cases hs : check.showCommands with
    | true =>
      simp only [Bool.false_or, Bool.false_eq_true, if_false, if_true]
      rw [perform_bind_of_ok (perform_print_line _ _)]
      have hrest := perform_compiled outcome (test, options)
        (w := w.advanced w.files [] [shown check directory (test, options)] []) hd hc (hread hd)
      refine hrest.trans ?_
      rw [advanced_advanced]
      simp [told, hd, hs]
    | false =>
      simp only [Bool.or_self, Bool.false_eq_true, if_false]
      have hrest := perform_compiled outcome (test, options) hd hc (hread hd)
      refine hrest.trans ?_
      simp [told, hd, hs]

theorem perform_invocations (hc : CompilesBy cc w.compile) {test : FeatureTestFile}
    (hread : check.dryRun = false → w.files.readText (testPath directory test) = .ok test.source)
    (sets : List OptionSet) :
    w.perform (sets.foldlM (runInvocation check test (testPath directory test)) outcome) =
      (.ok (counted check directory cc outcome 0 (sets.map (test, ·))),
        w.advanced w.files ((sets.map (test, ·)).flatMap (ran check directory))
          ((sets.map (test, ·)).flatMap (told check directory cc)) []) := by
  induction sets generalizing w outcome with
  | nil =>
    rw [List.map_nil, counted_nothing]
    exact congrArg _ (advanced_nothing w).symm
  | cons options rest ih =>
    rw [List.foldlM_cons, perform_bind_of_ok (perform_invocation hc hread options)]
    refine (ih (w := w.advanced w.files _ _ _) hc hread).trans ?_
    rw [counted_counted, advanced_advanced]
    rfl

/-- A feature's test is written where the compiler reads it. -/
theorem read_written {test : FeatureTestFile} {files next : FileTree}
    (hw : writeTest check directory files test = .ok next) (hd : check.dryRun = false) :
    next.readText (testPath directory test) = .ok test.source := by
  simp only [writeTest, hd] at hw
  exact (FileTree.written_of_write_text hw).read_back

variable {implementation : Implementation} {ladder : Ladder} (span : Log.Span)

theorem perform_test (outcome : CheckOutcome) (hc : CompilesBy cc w.compile)
    {test : FeatureTestFile}
    (hread : check.dryRun = false → w.files.readText (testPath directory test) = .ok test.source) :
    w.perform (do
      let outcome ← test.invocations.foldlM
        (runInvocation check test (testPath directory test)) outcome
      Work.log [checkedEvent span test]
      return outcome) =
      (.ok (counted check directory cc outcome 0 test.runs),
        w.advanced w.files (test.runs.flatMap (ran check directory))
          (test.runs.flatMap (told check directory cc)) [checkedEvent span test]) := by
  rw [perform_bind_of_ok (perform_invocations hc hread test.invocations),
    perform_bind_of_ok (perform_log _ _), perform_pure, advanced_advanced, List.append_nil,
    List.append_nil]
  rfl

theorem perform_feature (hc : CompilesBy cc w.compile) {feature : Feature} {test : FeatureTestFile}
    {next : FileTree} (ht : feature.testFile implementation ladder = .ok test)
    (hf : check.dryRun = false → w.fault (testPath directory test) test.source = none)
    (hw : writeTest check directory w.files test = .ok next) :
    w.perform (runFeature check ladder implementation directory span outcome feature) =
      (.ok (counted check directory cc outcome 1 test.runs),
        w.advanced next (test.runs.flatMap (ran check directory))
          (testLines check directory cc test) [checkedEvent span test]) := by
  have hruns (lines : List String) := perform_test (w := w.advanced next [] lines []) span
    { outcome with features := outcome.features + 1 } hc (read_written hw)
  have hstart : { outcome with features := outcome.features + 1 } =
      counted check directory cc outcome 1 [] := by
    simp [counted]
  unfold runFeature
  rw [perform_bind_of_ok (perform_of_except_ok ht)]
  cases hd : check.dryRun with
  | true =>
    rw [writeTest, if_pos hd, Except.ok.injEq] at hw
    subst next
    refine (perform_bind_of_ok (perform_print_line _ _) _).trans ((hruns _).trans ?_)
    rw [hstart, counted_counted, advanced_advanced, testLines, announced, hd]
    rfl
  | false =>
    rw [writeTest, if_neg (by simp [hd])] at hw
    refine (perform_bind_of_ok (perform_write_text_of_ok (hf hd) hw) _).trans ((hruns _).trans ?_)
    rw [hstart, counted_counted, advanced_advanced, testLines, announced, hd]
    rfl

theorem perform_feature_of_error {feature : Feature} {e : GenerationError}
    (ht : feature.testFile implementation ladder = .error e) :
    w.perform (runFeature check ladder implementation directory span outcome feature) =
      (.error (.featureTest feature.name e), w) :=
  perform_bind_of_error (perform_of_except_error ht) _

theorem perform_features (outcome : CheckOutcome) (hc : CompilesBy cc w.compile)
    {features : List Feature} {last : FileTree}
    (hf : Unimpeded check directory w (plan implementation ladder features).tests)
    (hw : (plan implementation ladder features).tests.foldlM (writeTest check directory) w.files =
      .ok last) :
    w.perform (features.foldlM (runFeature check ladder implementation directory span) outcome) =
      ((plan implementation ladder features).ended (counted check directory cc outcome
          (plan implementation ladder features).tests.length
          (plan implementation ladder features).runs),
        w.advanced last ((plan implementation ladder features).runs.flatMap (ran check directory))
          ((plan implementation ladder features).tests.flatMap (testLines check directory cc))
          ((plan implementation ladder features).tests.map (checkedEvent span))) := by
  induction features generalizing w outcome with
  | nil =>
    rw [plan, List.foldlM_nil, pure_eq_ok] at hw
    subst last
    simp only [plan, CheckPlan.runs, CheckPlan.ended, counted_nothing, List.flatMap_nil,
      List.map_nil, List.length_nil, advanced_nothing]
    rfl
  | cons feature rest ih =>
    rw [List.foldlM_cons]
    cases ht : feature.testFile implementation ladder with
    | error e =>
      simp only [plan, ht, List.foldlM_nil, pure_eq_ok] at hw ⊢
      subst last
      rw [perform_bind_of_error (perform_feature_of_error span ht)]
      simp only [CheckPlan.runs, CheckPlan.ended, List.flatMap_nil, List.map_nil, advanced_nothing]
    | ok test =>
      simp only [plan, ht, List.foldlM_cons, bind_eq_ok] at hw
      obtain ⟨next, hnext, hlast⟩ := hw
      simp only [plan, ht, Unimpeded, List.forall_mem_cons] at hf
      rw [perform_bind_of_ok (perform_feature span hc ht (fun hd => (hf hd).1) hnext)]
      refine (ih (w := w.advanced next _ _ _) _ hc (fun hd => (hf hd).2) hlast).trans ?_
      rw [counted_counted, advanced_advanced]
      simp only [plan, ht, CheckPlan.runs, CheckPlan.ended, List.flatMap_cons, List.map_cons,
        List.flatMap_append, List.length_cons, List.singleton_append, Nat.add_comm 1]

variable {features : List Feature} {p : CheckPlan}

/-- A check is through with its features, or stops at one of them. -/
theorem perform_features_to_end (hp : plan implementation ladder features = p)
    (hc : CompilesBy cc w.compile) {last : FileTree} (hf : Unimpeded check directory w p.tests)
    (hw : p.tests.foldlM (writeTest check directory) w.files = .ok last) :
    w.perform (do
      let outcome ← features.foldlM (runFeature check ladder implementation directory span) {}
      Work.log [finishedEvent span outcome]
      return outcome) =
      (p.ended (counted check directory cc {} p.tests.length p.runs),
        w.advanced last (p.runs.flatMap (ran check directory))
          (p.tests.flatMap (testLines check directory cc))
          (events p span (counted check directory cc {} p.tests.length p.runs))) := by
  subst p
  have hfeatures := perform_features span {} hc hf hw
  cases hs : (plan implementation ladder features).stop with
  | none =>
    simp only [CheckPlan.ended, hs] at hfeatures
    rw [perform_bind_of_ok hfeatures, perform_bind_of_ok (perform_log _ _), perform_pure,
      advanced_advanced]
    simp [CheckPlan.ended, events, hs, advanced]
  | some e =>
    simp only [CheckPlan.ended, hs] at hfeatures
    rw [perform_bind_of_error hfeatures]
    simp [CheckPlan.ended, events, hs]

theorem perform_run (registry : Registry) (kind : Kind) (testDir : String) {made last : FileTree}
    (hp : plan implementation ladder (registry.active kind implementation) = p)
    (hdir : Path.join testDir individualsDir = directory) (hc : CompilesBy cc w.compile)
    (hf : Unimpeded check directory w p.tests) (hmade : prepare check directory w.files = .ok made)
    (hwritten : p.tests.foldlM (writeTest check directory) made = .ok last) :
    w.perform (run check registry ladder kind implementation testDir) =
      (p.ended (counted check directory cc {} p.tests.length p.runs),
        w.advanced last (p.runs.flatMap (ran check directory))
          (opening check directory ++ p.tests.flatMap (testLines check directory cc))
          (events p (checkSpan kind implementation)
            (counted check directory cc {} p.tests.length p.runs))) := by
  subst directory
  have hrest (lines : List String) := perform_features_to_end (w := w.advanced made [] lines [])
    (checkSpan kind implementation) hp hc hf hwritten
  unfold run
  cases hd : check.dryRun with
  | true =>
    rw [prepare, if_pos hd, Except.ok.injEq] at hmade
    subst made
    simp only [if_true]
    rw [perform_bind_of_ok (perform_print_line _ _), perform_bind_of_ok (perform_print_line _ _),
      advanced_advanced]
    refine (hrest _).trans ?_
    rw [advanced_advanced, opening, hd]
    rfl
  | false =>
    rw [prepare, if_neg (by simp [hd])] at hmade
    have hcreate := perform_create_directories_of_ok hmade
    refine (perform_bind_of_ok hcreate _).trans ((hrest _).trans ?_)
    rw [advanced_advanced, opening, hd]
    rfl

end Runs

end Check
end FeatureTest
