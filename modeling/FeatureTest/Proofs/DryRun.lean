import FeatureTest.Proofs.CheckRuns

/-!
A dry run tells what the run would do: the same features in the same order, the same counts, and
the very commands, of which it runs none.
-/
namespace FeatureTest

namespace Check
open World Success

section Plans

variable {implementation : Implementation} {ladder : Ladder}

/-- The tests of a plan are those of the features in their order: of all of them, or of those before
one that has no test. -/
inductive Covers (implementation : Implementation) (ladder : Ladder) :
    List Feature → CheckPlan → Prop
  | nil : Covers implementation ladder [] ⟨[], none⟩
  | stopped {feature : Feature} {e : GenerationError} (rest : List Feature)
      (h : feature.testFile implementation ladder = .error e) :
      Covers implementation ladder (feature :: rest) ⟨[], some (.featureTest feature.name e)⟩
  | tested {feature : Feature} {test : FeatureTestFile} {rest : List Feature} {p : CheckPlan}
      (h : feature.testFile implementation ladder = .ok test)
      (hrest : Covers implementation ladder rest p) :
      Covers implementation ladder (feature :: rest) ⟨test :: p.tests, p.stop⟩

theorem name_of_test_file {feature : Feature} {test : FeatureTestFile}
    (h : feature.testFile implementation ladder = .ok test) : test.name = feature.name := by
  unfold Feature.testFile at h
  rw [bind_eq_ok] at h
  obtain ⟨block, -, h⟩ := h
  rw [pure_eq_ok] at h
  subst test
  rfl

theorem Covers.names {features : List Feature} {p : CheckPlan}
    (h : Covers implementation ladder features p) :
    p.tests.map (·.name) <+: features.map (·.name) := by
  induction h with
  | nil | stopped => exact List.nil_prefix
  | tested htest _ ih =>
    rw [List.map_cons, List.map_cons, name_of_test_file htest]
    exact List.cons_prefix_cons.mpr ⟨rfl, ih⟩

theorem Covers.all_names {features : List Feature} {p : CheckPlan}
    (h : Covers implementation ladder features p) (hs : p.stop = none) :
    p.tests.map (·.name) = features.map (·.name) := by
  induction h with
  | nil => rfl
  | stopped => cases hs
  | tested htest _ ih =>
    rw [List.map_cons, List.map_cons, name_of_test_file htest, ih hs]

theorem plan_covers (features : List Feature) :
    Covers implementation ladder features (plan implementation ladder features) := by
  induction features with
  | nil => exact .nil
  | cons feature rest ih =>
    rw [plan]
    split
    · rename_i h
      exact .tested h ih
    · rename_i h
      exact .stopped rest h

end Plans

section Telling

variable (check : CheckOptions) (directory : String)

/-- What a dry run tells of a plan. -/
def planLines (p : CheckPlan) : List String :=
  "Dry run..." :: s!"Would touch {directory}" :: p.tests.flatMap fun test =>
    s!"Would create {testPath directory test}" :: test.runs.map (shown check directory)

/-- The files with the directory and all tests in it. -/
def writeAll (tests : List FeatureTestFile) (files : FileTree) : Except FileError FileTree := do
  tests.foldlM (fun files test => files.writeText (testPath directory test) test.source)
    (← files.createDirectories directory)

end Telling

section Modes

variable {check : CheckOptions} {directory : String} {cc : List String → String → CompilerOutput}

theorem dry_found (hd : check.dryRun = true) (runs : List (FeatureTestFile × OptionSet)) :
    runs.flatMap (found check directory cc) = [] := by
  simp [found, hd]

theorem dry_ran (hd : check.dryRun = true) (runs : List (FeatureTestFile × OptionSet)) :
    runs.flatMap (ran check directory) = [] := by
  simp [ran, hd]

theorem dry_lines (hd : check.dryRun = true) (p : CheckPlan) :
    opening check directory ++ p.tests.flatMap (testLines check directory cc) =
      planLines check directory p := by
  have htold : told check directory cc = fun run => [shown check directory run] := by
    funext run
    simp [told, found, hd]
  have htest : testLines check directory cc = fun test =>
      s!"Would create {testPath directory test}" :: test.runs.map (shown check directory) := by
    funext test
    rw [testLines, announced, if_pos hd, htold, List.map_eq_flatMap]
    rfl
  rw [opening, if_pos hd, htest]
  rfl

theorem dry_written (hd : check.dryRun = true) (tests : List FeatureTestFile) (files : FileTree) :
    tests.foldlM (writeTest check directory) files = .ok files := by
  induction tests with
  | nil => rfl
  | cons test rest ih =>
    rw [List.foldlM_cons, writeTest, if_pos hd]
    exact ih

theorem real_ran (hd : check.dryRun = false) (runs : List (FeatureTestFile × OptionSet)) :
    runs.flatMap (ran check directory) = runs.map (command check directory) := by
  have heach : ran check directory = fun run => [command check directory run] := by
    funext run
    simp [ran, hd]
  rw [List.map_eq_flatMap, heach]

theorem found_describes (check : CheckOptions) (hd : check.dryRun = false)
    (runs : List (FeatureTestFile × OptionSet)) :
    List.Forall₂
      (fun run d =>
        Describes check.compiler run.1 run.2 (compiled check directory cc run) d)
      (runs.filter fun run => Speaks check.compiler (compiled check directory cc run))
      (runs.flatMap (found check directory cc)) := by
  induction runs with
  | nil => exact .nil
  | cons run rest ih =>
    rw [List.flatMap_cons, found, if_neg (by simp [hd])]
    by_cases h : Speaks check.compiler (compiled check directory cc run)
    · obtain ⟨d, hd, hdescribes⟩ := diagnostic_describes run.1 run.2 h
      rw [List.filter_cons_of_pos (by simpa using h), hd]
      exact .cons hdescribes ih
    · rw [List.filter_cons_of_neg (by simpa using h), diagnostic_eq_none h]
      exact ih

end Modes

section Faithful

/-- Whether a line shows a command. -/
def showsCommand (line : String) : Bool := "+ ".toList.isPrefixOf line.toList

/-- A command is shown as a plus sign and its words. -/
theorem shown_words (check : CheckOptions) (directory : String)
    (run : FeatureTestFile × OptionSet) :
    shown check directory run = "+ " ++ " ".intercalate (command check directory run) := rfl

theorem shows_shown (check : CheckOptions) (directory : String)
    (runs : List (FeatureTestFile × OptionSet)) :
    (runs.map (shown check directory)).filter showsCommand = runs.map (shown check directory) := by
  rw [List.filter_eq_self]
  intro line hl
  obtain ⟨run, -, rfl⟩ := List.mem_map.mp hl
  simp [showsCommand, shown_words]

/-- The lines of a dry run that show a command give the words of its runs' commands, one after the
other. -/
theorem plan_lines_commands (check : CheckOptions) (directory : String) (p : CheckPlan) :
    (planLines check directory p).filter showsCommand =
      (p.runs.map (command check directory)).map fun words => "+ " ++ " ".intercalate words := by
  have htests : ∀ tests : List FeatureTestFile, (tests.flatMap fun test =>
      s!"Would create {testPath directory test}" ::
        test.runs.map (shown check directory)).filter showsCommand =
      (tests.flatMap (·.runs)).map (shown check directory) := by
    intro tests
    induction tests with
    | nil => rfl
    | cons test rest ih =>
      have hcreate : showsCommand s!"Would create {testPath directory test}" = false := by
        simp [showsCommand, toString, List.isPrefixOf]
      rw [List.flatMap_cons, List.flatMap_cons, List.filter_append, List.map_append, ih,
        List.filter_cons_of_neg (by simp [hcreate]), shows_shown]
  have htouch : showsCommand s!"Would touch {directory}" = false := by
    simp [showsCommand, toString, List.isPrefixOf]
  rw [planLines, List.filter_cons_of_neg (by decide), List.filter_cons_of_neg (by simp [htouch]),
    htests, List.map_map]
  exact List.map_congr_left fun run _ => shown_words check directory run

theorem dry_run_eq (check : CheckOptions) (hd : check.dryRun = true)
    {cc : List String → String → CompilerOutput} (registry : Registry) (ladder : Ladder)
    (kind : Kind) (implementation : Implementation) (testDir : String) {w : World} {p : CheckPlan}
    (hp : plan implementation ladder (registry.active kind implementation) = p)
    (hc : CompilesBy cc w.compile) :
    w.perform (run check registry ladder kind implementation testDir) =
      (p.ended { features := p.tests.length, invocations := p.runs.length },
        w.advanced w.files [] (planLines check (Path.join testDir individualsDir) p)
          (events p (checkSpan kind implementation)
            { features := p.tests.length, invocations := p.runs.length })) := by
  have hf : Unimpeded check (Path.join testDir individualsDir) w p.tests :=
    fun h => absurd (hd.symm.trans h) (by decide)
  have hrun := perform_run registry kind testDir hp rfl hc hf (if_pos hd) (dry_written hd _ _)
  have hcounted : counted check (Path.join testDir individualsDir) cc {} p.tests.length p.runs =
      { features := p.tests.length, invocations := p.runs.length } := by
    simp [counted, dry_found hd]
  rw [hrun, hcounted, dry_ran hd, dry_lines hd]

theorem real_run_eq (check : CheckOptions) (hd : check.dryRun = false)
    {cc : List String → String → CompilerOutput} (registry : Registry) (ladder : Ladder)
    (kind : Kind) (implementation : Implementation) (testDir : String) {w : World} {p : CheckPlan}
    {last : FileTree} (hp : plan implementation ladder (registry.active kind implementation) = p)
    (hc : CompilesBy cc w.compile)
    (hf : ∀ test ∈ p.tests,
      w.fault (testPath (Path.join testDir individualsDir) test) test.source = none)
    (hw : writeAll (Path.join testDir individualsDir) p.tests w.files = .ok last) :
    ∃ lines, w.perform (run check registry ladder kind implementation testDir) =
      (p.ended (counted check (Path.join testDir individualsDir) cc {} p.tests.length p.runs),
        w.advanced last (p.runs.map (command check (Path.join testDir individualsDir))) lines
          (events p (checkSpan kind implementation)
            (counted check (Path.join testDir individualsDir) cc {} p.tests.length p.runs))) := by
  obtain ⟨made, hmade, hwritten⟩ := bind_eq_ok.mp hw
  have hwrite : writeTest check (Path.join testDir individualsDir) = fun files test =>
      files.writeText (testPath (Path.join testDir individualsDir) test) test.source := by
    funext files test
    simp [writeTest, hd]
  have hprepare : prepare check (Path.join testDir individualsDir) w.files = .ok made := by
    simpa [prepare, hd] using hmade
  have hrun := perform_run registry kind testDir hp rfl hc (fun _ => hf) hprepare
    (hwrite ▸ hwritten)
  rw [real_ran hd] at hrun
  exact ⟨_, hrun⟩

variable (check : CheckOptions) (cc : List String → String → CompilerOutput)

/-- A dry run and the run proper of one plan on one machine. The former tells of the latter's
features, runs and commands, and leaves everything but what is printed and reported alone. -/
structure ToldAhead (directory : String) (span : Log.Span) (features : List Feature)
    (implementation : Implementation) (ladder : Ladder) (p : CheckPlan) (last : FileTree)
    (w : World) (dry real : Except CommandError CheckOutcome × World) : Prop where
  covers : Covers implementation ladder features p
  visited : p.tests.map (·.name) <+: features.map (·.name)
  visited_all : p.stop = none → p.tests.map (·.name) = features.map (·.name)
  dry_run : dry =
    (p.ended { features := p.tests.length, invocations := p.runs.length },
      w.advanced w.files [] (planLines check directory p)
        (events p span { features := p.tests.length, invocations := p.runs.length }))
  commands_told : (planLines check directory p).filter showsCommand =
    (p.runs.map (command check directory)).map fun words => "+ " ++ " ".intercalate words
  real_run : ∃ diagnostics lines,
    real =
      (p.ended { features := p.tests.length, invocations := p.runs.length, diagnostics },
        w.advanced last (p.runs.map (command check directory)) lines
          (events p span
            { features := p.tests.length, invocations := p.runs.length, diagnostics })) ∧
    List.Forall₂
      (fun run d => Describes check.compiler run.1 run.2 (compiled check directory cc run) d)
      (p.runs.filter fun run => Speaks check.compiler (compiled check directory cc run)) diagnostics

/-- On a machine where files can be written and the compiler starts, a dry run is faithful to the
run proper. -/
theorem dry_run_told_ahead {check : CheckOptions} {cc : List String → String → CompilerOutput}
    (registry : Registry) (ladder : Ladder) (kind : Kind) (implementation : Implementation)
    (testDir : String) {w : World} {last : FileTree} (hc : CompilesBy cc w.compile)
    (hf : ∀ test ∈ (plan implementation ladder (registry.active kind implementation)).tests,
      w.fault (testPath (Path.join testDir individualsDir) test) test.source = none)
    (hw : writeAll (Path.join testDir individualsDir)
      (plan implementation ladder (registry.active kind implementation)).tests w.files = .ok last) :
    ToldAhead check cc (Path.join testDir individualsDir) (checkSpan kind implementation)
      (registry.active kind implementation) implementation ladder
      (plan implementation ladder (registry.active kind implementation)) last w
      (w.perform (run { check with dryRun := true } registry ladder kind implementation testDir))
      (w.perform (run { check with dryRun := false } registry ladder kind implementation
        testDir)) := by
  have hdry := dry_run_eq { check with dryRun := true } rfl registry ladder kind implementation
    testDir rfl hc
  obtain ⟨lines, hreal⟩ := real_run_eq { check with dryRun := false } rfl registry ladder kind
    implementation testDir rfl hc hf hw
  rw [hdry, hreal]
  exact {
    covers := plan_covers _
    visited := (plan_covers _).names
    visited_all := (plan_covers _).all_names
    dry_run := rfl
    commands_told := plan_lines_commands check _ _
    real_run := by
      refine ⟨_, lines, ?_, found_describes { check with dryRun := false } rfl _⟩
      simp [counted]
      rfl }

end Faithful

end Check

/-- A compiler that reads the file its command names last, and then does as it is told. -/
def readThen (cc : List String → String → CompilerOutput) (files : FileTree)
    (command : List String) : Except FileError CompilerOutput :=
  match command.getLast? with
  | none => .error .notFound
  | some file => (files.readText file).map (cc command)

theorem compiles_by_read_then (cc : List String → String → CompilerOutput) :
    CompilesBy cc (readThen cc) := by
  intro files command file source hlast hread
  simp only [readThen, hlast, hread]
  rfl

namespace Check

/-- An empty machine, with a compiler that has a word on everything. -/
def talkativeMachine : World where
  files := ⟨[], []⟩
  directory := "/"
  compile := readThen fun _ source => ⟨source, "note"⟩

/-- A feature that no compiler has. -/
def absentFeatures : Registry := ⟨[{ name := "__cpp_x", kind := .language }]⟩

theorem talkative_runs_told_ahead : ∃ last,
    writeAll (Path.join "t" individualsDir)
      (plan .gcc .cpp (absentFeatures.active .language .gcc)).tests talkativeMachine.files =
      .ok last ∧
    ToldAhead { compiler := .ofImplementation .gcc } (fun _ source => ⟨source, "note"⟩)
      (Path.join "t" individualsDir) (checkSpan .language .gcc)
      (absentFeatures.active .language .gcc) .gcc .cpp
      (plan .gcc .cpp (absentFeatures.active .language .gcc)) last talkativeMachine
      (talkativeMachine.perform (run { compiler := .ofImplementation .gcc, dryRun := true }
        absentFeatures .cpp .language .gcc "t"))
      (talkativeMachine.perform (run { compiler := .ofImplementation .gcc }
        absentFeatures .cpp .language .gcc "t")) ∧
    (planLines { compiler := .ofImplementation .gcc } (Path.join "t" individualsDir)
      (plan .gcc .cpp (absentFeatures.active .language .gcc))).filter showsCommand =
      ["98", "11", "14", "17", "20", "23", "26"].map fun year =>
        "+ gcc -E -fno-diagnostics-show-caret -std=c++" ++ year ++
          " t/individuals/__cpp_x.cpp" := by
  have hok : (writeAll (Path.join "t" individualsDir)
      (plan .gcc .cpp (absentFeatures.active .language .gcc)).tests talkativeMachine.files).isOk =
      true := by
    decide +kernel
  cases hw : writeAll (Path.join "t" individualsDir)
      (plan .gcc .cpp (absentFeatures.active .language .gcc)).tests talkativeMachine.files with
  | error e =>
    rw [hw] at hok
    cases hok
  | ok last =>
    have htold := @dry_run_told_ahead { compiler := .ofImplementation .gcc } _ absentFeatures .cpp
      .language .gcc "t" talkativeMachine last (compiles_by_read_then _) (fun _ _ => rfl) hw
    refine ⟨last, rfl, htold, ?_⟩
    rw [htold.commands_told]
    decide +kernel

end Check
end FeatureTest
