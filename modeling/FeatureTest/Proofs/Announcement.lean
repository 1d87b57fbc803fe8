import FeatureTest.Proofs.Gate
import FeatureTest.Proofs.TreeTests

/-!
What the compiler runs of a feature's test announce. A run defines the presence macros of the
switches it passes, and no others. Switches that share a macro cannot be told apart.
-/
namespace FeatureTest
open Success

namespace Switch

variable {s t : Switch}

theorem mem_presence_name {spelling : List Char} {c : Char} (hc : c ∈ spelling)
    (hm : isMark c = false) : c ∈ presenceName spelling := by
  have hkept : ∀ raw : List Char, c ∈ raw → c ∈ raw.map fun d => if isMark d then '_' else d := by
    intro raw hraw
    exact List.mem_map.mpr ⟨c, hraw, by simp [hm]⟩
  unfold presenceName
  split
  · rename_i hnegated
    -- the mark that ends a negated spelling is dropped, and `c` is no mark
    have hlast := List.dropLast_append_getLast? '-' hnegated.2
    rw [← hlast] at hc
    rcases List.mem_append.mp hc with hc | hc
    · exact hkept _ (List.mem_append_right _ hc)
    · rw [List.mem_singleton.mp hc] at hm
      exact absurd hm (by decide)
  · exact hkept _ (List.mem_append_right _ hc)

theorem identifier_chars (s : Switch) : s.identifier.toList = presenceName s.spelling.toList := by
  have h := s.announced
  dsimp only [presenceMacro] at h
  split at h
  · rw [← Except.ok.inj h, String.toList_ofList]
  · cases h

theorem identifier_of_spelling (h : s.spelling = t.spelling) : s.identifier = t.identifier := by
  have ht := t.announced
  rw [← h, s.announced] at ht
  exact Except.ok.inj ht

theorem equals_not_mem_spelling (s : Switch) : '=' ∉ s.spelling.toList := by
  intro h
  have hname := mem_presence_name h (by decide)
  rw [← identifier_chars] at hname
  have hm := TestText.presence_macro_of_switch s
  simp only [TestText.isPresenceMacro, Bool.and_eq_true, List.all_eq_true] at hm
  exact absurd (hm.2 _ hname) (by decide)

theorem define_chars (s : Switch) :
    s.define.toList = '-' :: 'D' :: (s.identifier.toList ++ ['=', '1']) := by
  simp [define, toString]

theorem define_ne_spelling : s.define ≠ t.spelling := by
  intro h
  have ht := equals_not_mem_spelling t
  rw [← h, define_chars] at ht
  simp at ht

theorem define_eq_define : s.define = t.define ↔ s.identifier = t.identifier := by
  constructor
  · intro h
    have hchars := congrArg String.toList h
    rw [define_chars, define_chars] at hchars
    exact String.toList_inj.mp (by simpa using hchars)
  · intro h
    rw [define, define, h]

theorem presence_name_plain {spelling : List Char}
    (h : ¬(spelling.head? = some '/' ∧ spelling.getLast? = some '-')) :
    (presenceName spelling).length = spelling.length + 6 := by
  unfold presenceName
  rw [if_neg h, List.length_map, List.length_append, Nat.add_comm]
  rfl

theorem presence_name_negated (stem : List Char) :
    (presenceName ('/' :: stem ++ ['-'])).length = stem.length + 10 := by
  have h : ('/' :: stem ++ ['-']).head? = some '/' ∧ ('/' :: stem ++ ['-']).getLast? = some '-' :=
    ⟨rfl, List.getLast?_concat⟩
  unfold presenceName
  rw [if_pos h, List.length_map, List.length_append, List.dropLast_concat, List.length_cons]
  exact Nat.add_comm 9 _

/-- Turning a switch off adds three characters to its macro, whichever way it is written. -/
theorem negate_macro_length {on off : String} (h : negate on = .ok off) :
    (presenceName off.toList).length = (presenceName on.toList).length + 3 := by
  unfold negate at h
  split at h
  case h_1 rest hon =>
    split at h
    · cases h
    · rw [← Except.ok.inj h, String.toList_ofList, hon, presence_name_plain (by simp),
        presence_name_plain (by simp)]
      simp
  case h_2 rest hon =>
    split at h
    · cases h
    · rename_i hlast
      rw [← Except.ok.inj h, String.toList_ofList, hon, presence_name_negated,
        presence_name_plain]
      · simp
      · intro hnegated
        have hend := hnegated.2
        rw [List.getLast?_cons] at hend
        cases he : rest.getLast? with
        | none => simp [he] at hend
        | some c => exact hlast (by simpa [he] using hend)
  case h_3 => cases h

end Switch

theorem Toggle.macros_differ (toggle : Toggle) :
    toggle.enable.identifier ≠ toggle.disable.identifier := by
  intro h
  have hlength := Switch.negate_macro_length toggle.negated
  rw [← Switch.identifier_chars, ← Switch.identifier_chars, h] at hlength
  omega

namespace SupportList

theorem mem_option_sets {support : SupportList} {set : OptionSet} :
    set ∈ support.optionSets ↔
      set = [] ∨ ∃ s ∈ support.facts.flatMap (·.switches), set = [s.spelling, s.define] := by
  simp only [optionSets, List.mem_cons, List.mem_map, eq_comm]

theorem strict_variants_eq_some {support : SupportList} {strict lenient : String} :
    support.strictVariants = some (strict, lenient) ↔
      support.isStrictSensitive = true ∧ strict = "-pedantic" ∧ lenient = "-DNO_pedantic=1" := by
  unfold strictVariants
  cases support.isStrictSensitive with
  | false => simp
  | true => simp [pedanticSwitch, nonPedanticMacro, toString, eq_comm]

/-- The arguments for each mode a test is run in: none, or those for strict mode and its absence. -/
def modes (support : SupportList) : List OptionSet :=
  match support.strictVariants with
  | some (strict, lenient) => [[strict], [lenient]]
  | none => [[]]

theorem modes_ne_nil (support : SupportList) : support.modes ≠ [] := by
  unfold modes
  cases support.strictVariants <;> simp

theorem mode_argument_eq {support : SupportList} {arg : String}
    (h : arg ∈ support.modes.flatten) : arg = "-pedantic" ∨ arg = "-DNO_pedantic=1" := by
  unfold modes at h
  cases hv : support.strictVariants with
  | none => simp [hv] at h
  | some variants =>
    obtain ⟨strict, lenient⟩ := variants
    obtain ⟨-, rfl, rfl⟩ := strict_variants_eq_some.mp hv
    simpa [hv] using h

end SupportList

theorem Ladder.standard_switch_chars {ladder : Ladder} {i : Implementation}
    {entry : Standard × String} (h : entry ∈ ladder.standardSwitches i) :
    ∃ rest, entry.2.toList = '-' :: 's' :: rest := by
  have hgnu : entry ∈ ladder.standards.map (fun s => (s, "-std=" ++ s.switchName)) →
      ∃ rest, entry.2.toList = '-' :: 's' :: rest := by
    intro hm
    obtain ⟨standard, -, rfl⟩ := List.mem_map.mp hm
    exact ⟨_, by rw [String.toList_append]; rfl⟩
  cases i with
  | clang => exact hgnu h
  | gcc => exact hgnu h
  | msvc =>
    obtain ⟨⟨revision, index⟩, -, rfl⟩ := List.mem_map.mp h
    dsimp only
    split
    · exact ⟨_, rfl⟩
    · exact ⟨_, by rw [String.toList_append]; rfl⟩

namespace Feature

variable {feature : Feature} {i : Implementation} {ladder : Ladder} {args : OptionSet}

/-- The arguments that select a standard, or strict mode or its absence. -/
def modeArguments (feature : Feature) (i : Implementation) (ladder : Ladder) : List String :=
  (ladder.standardSwitches i).map (·.2) ++ (feature.supportFor i).modes.flatten

theorem define_not_mem_modes (s : Switch) : s.define ∉ feature.modeArguments i ladder := by
  obtain ⟨name, hname⟩ := TestText.presence_macro_head (TestText.presence_macro_of_switch s)
  have hdefine : s.define.toList = '-' :: 'D' :: 'H' :: (name ++ ['=', '1']) := by
    rw [Switch.define_chars, hname]
    rfl
  intro hm
  rcases List.mem_append.mp hm with hm | hm
  · obtain ⟨entry, he, heq⟩ := List.mem_map.mp hm
    obtain ⟨rest, hrest⟩ := Ladder.standard_switch_chars he
    rw [heq, hdefine] at hrest
    simp at hrest
  · rcases SupportList.mode_argument_eq hm with heq | heq
    · rw [heq] at hdefine
      simp at hdefine
    · rw [heq] at hdefine
      simp at hdefine

theorem mem_invocations :
    args ∈ feature.invocations i ladder ↔ ∃ entry ∈ ladder.standardSwitches i,
      ∃ set ∈ (feature.supportFor i).optionSets, ∃ mode ∈ (feature.supportFor i).modes,
        entry.2 :: mode ++ set = args := by
  have hmodes : feature.invocations i ladder = (ladder.standardSwitches i).flatMap fun entry =>
      (feature.supportFor i).optionSets.flatMap fun set =>
        (feature.supportFor i).modes.map fun mode => entry.2 :: mode ++ set := rfl
  simp only [hmodes, List.mem_flatMap, List.mem_map]

/-- A run passes arguments that select a mode, and then one set of options. -/
theorem invocation_parts (h : args ∈ feature.invocations i ladder) :
    ∃ selecting set, (∀ arg ∈ selecting, arg ∈ feature.modeArguments i ladder) ∧
      set ∈ (feature.supportFor i).optionSets ∧ args = selecting ++ set := by
  obtain ⟨entry, he, set, hs, mode, hm, rfl⟩ := mem_invocations.mp h
  refine ⟨entry.2 :: mode, set, ?_, hs, rfl⟩
  intro arg harg
  rcases List.mem_cons.mp harg with rfl | harg
  · exact List.mem_append_left _ (List.mem_map_of_mem he)
  · exact List.mem_append_right _ (List.mem_flatten_of_mem hm harg)

/-- Under each standard some run passes the switch and defines its macro. -/
theorem switch_passed {entry : Standard × String} {s : Switch}
    (he : entry ∈ ladder.standardSwitches i)
    (hs : s ∈ (feature.supportFor i).facts.flatMap (·.switches)) :
    ∃ args ∈ feature.invocations i ladder,
      entry.2 ∈ args ∧ s.spelling ∈ args ∧ s.define ∈ args := by
  have hset : [s.spelling, s.define] ∈ (feature.supportFor i).optionSets :=
    SupportList.mem_option_sets.mpr (.inr ⟨s, hs, rfl⟩)
  obtain ⟨mode, hm⟩ := List.exists_mem_of_ne_nil _ (feature.supportFor i).modes_ne_nil
  exact ⟨_, mem_invocations.mpr ⟨entry, he, _, hset, mode, hm, rfl⟩, by simp⟩

theorem test_file_invocations {test : FeatureTestFile} (h : feature.testFile i ladder = .ok test) :
    test.invocations = feature.invocations i ladder := by
  obtain ⟨block, -, h⟩ := bind_eq_ok.mp h
  cases h
  rfl

/-- A macro is defined by the run that passes one of its switches. -/
theorem passed_of_defined {s : Switch} (h : args ∈ feature.invocations i ladder)
    (hd : s.define ∈ args) :
    ∃ t ∈ (feature.supportFor i).facts.flatMap (·.switches),
      t.identifier = s.identifier ∧ t.spelling ∈ args := by
  obtain ⟨selecting, set, hmodes, hs, rfl⟩ := invocation_parts h
  rcases List.mem_append.mp hd with hd | hd
  · exact absurd (hmodes _ hd) (define_not_mem_modes s)
  · rcases SupportList.mem_option_sets.mp hs with rfl | ⟨t, ht, rfl⟩
    · cases hd
    · refine ⟨t, ht, ?_, List.mem_append_right _ List.mem_cons_self⟩
      rcases List.mem_pair.mp hd with hd | hd
      · exact absurd hd Switch.define_ne_spelling
      · exact (Switch.define_eq_define.mp hd).symm

/-- A switch that is passed, and not to select a mode, has its macro defined. -/
theorem defined_of_passed {s : Switch} (h : args ∈ feature.invocations i ladder)
    (hp : s.spelling ∈ args) (hs : s.spelling ∉ feature.modeArguments i ladder) :
    s.define ∈ args := by
  obtain ⟨selecting, set, hmodes, hset, rfl⟩ := invocation_parts h
  rcases List.mem_append.mp hp with hp | hp
  · exact absurd (hmodes _ hp) hs
  · apply List.mem_append_right
    rcases SupportList.mem_option_sets.mp hset with rfl | ⟨t, -, rfl⟩
    · cases hp
    · rcases List.mem_pair.mp hp with hp | hp
      · have hd := Switch.define_eq_define.mpr (Switch.identifier_of_spelling hp)
        simp [hd]
      · exact absurd hp.symm Switch.define_ne_spelling

end Feature

/-- The switches that a test asks for. -/
def Conjunct.switches : Conjunct → List Switch
  | .allPassed switches | .nonePassed switches | .anyPassed switches => switches
  | .past _ | .nonPedantic | .expression _ => []

def Condition.switches (condition : Condition) : List Switch :=
  condition.conjuncts.flatMap (·.switches)

/-- The switches that decide between the tree's checks. -/
def DecisionTree.switches (tree : DecisionTree) : List Switch :=
  tree.conditions.flatMap (·.switches)

section Guards

variable {fact : Fact} {ladder : Ladder}

theorem since_guard_switches : (fact.sinceGuard ladder).flatMap (·.switches) = [] := by
  unfold Fact.sinceGuard
  cases (fact.since.bind ladder.rung?).bind ladder.previousWatermark <;> rfl

theorem switch_tests_switches :
    fact.switchTests.flatMap (·.switches) = fact.enabledBy ++ fact.disabledBy := by
  unfold Fact.switchTests
  cases fact.enabledBy <;> cases fact.disabledBy <;> cases fact.depends <;>
    cases fact.strictSensitive <;> simp [Conjunct.switches]

theorem guard_switches :
    (fact.guard ladder).condition.switches = fact.enabledBy ++ fact.disabledBy := by
  simp only [Fact.guard, Condition.switches, List.flatMap_append, since_guard_switches,
    switch_tests_switches, List.nil_append]

theorem toggle_guard_switches {tests : ToggleTests} (h : fact.toggleGuard = some tests) :
    tests.enabled.switches = fact.toggles.map (·.enable) ∧
      tests.disabled.switches = fact.toggles.map (·.disable) := by
  unfold Fact.toggleGuard at h
  split at h
  · cases h
  · cases h
    exact ⟨rfl, rfl⟩

/-- The tests that a fact can add to a tree ask for no switch but those that it names. -/
theorem tests_switches : (fact.tests ladder).flatMap (·.switches) ⊆ fact.switches := by
  intro s hs
  rw [Fact.tests, List.flatMap_append, List.mem_append] at hs
  rw [Fact.switches, List.append_assoc, List.mem_append]
  have hguard : (fact.guard ladder).condition.switches = fact.enabledBy ++ fact.disabledBy :=
    guard_switches
  rcases hs with hs | hs
  · exact .inr (hguard ▸ hs)
  · left
    cases htoggle : fact.toggleGuard with
    | none => simp [htoggle] at hs
    | some toggle =>
      obtain ⟨hon, hoff⟩ := toggle_guard_switches htoggle
      simpa [htoggle, hon, hoff] using hs

/-- The tree of accepted facts asks for no switch but those that they name. -/
theorem AcceptedFacts.tree_switches {facts : List Fact} {tree : DecisionTree}
    (h : AcceptedFacts facts ladder) (ht : DecisionTree.ofFacts ladder facts.reverse = .ok tree) :
    tree.switches ⊆ facts.flatMap (·.switches) := by
  intro s hs
  obtain ⟨condition, hm, hs⟩ := List.mem_flatMap.mp hs
  obtain ⟨c, hc, hs⟩ := List.mem_flatMap.mp hs
  obtain ⟨fact, hf, htests⟩ := h.tree_tests ht condition hm c hc
  exact List.mem_flatMap.mpr ⟨fact, hf, tests_switches (List.mem_flatMap.mpr ⟨c, htests, hs⟩)⟩

end Guards

/-- The preprocessor of a run, to which a macro is defined where an argument defines it. -/
def Environment.RunWith (env : Environment) (args : OptionSet) : Prop :=
  ∀ name, env.defined name = true ↔ s!"-D{name}=1" ∈ args

/-- Every accepted list of facts has a test, which is run with each of their switches under each
standard. Its runs define a macro only when they pass a switch of that macro, and they define the
macro of each switch that they pass other than to select a mode. A switch that shares its macro with
no other is therefore announced just where it is passed; a toggle and its negation never share
theirs. No guard asks for a switch that the facts do not name, or sees one as passed where no switch
of its macro is. -/
theorem runs_announce_passed_switches {feature : Feature} {i : Implementation} {ladder : Ladder}
    {facts : List Fact} {removed : Bool}
    (haccepted : SupportList.ofFacts facts removed ladder = .ok (feature.supportFor i)) :
    ∃ test tree, feature.testFile i ladder = .ok test ∧
      feature.decisionTree i ladder = .ok tree ∧
      (∀ entry ∈ ladder.standardSwitches i, ∀ s ∈ facts.flatMap (·.switches),
        ∃ args ∈ test.invocations, entry.2 ∈ args ∧ s.spelling ∈ args ∧ s.define ∈ args) ∧
      (∀ args ∈ test.invocations, ∀ s ∈ facts.flatMap (·.switches),
        (s.define ∈ args →
          ∃ t ∈ facts.flatMap (·.switches), t.identifier = s.identifier ∧ t.spelling ∈ args) ∧
        (s.spelling ∉ feature.modeArguments i ladder → s.spelling ∈ args → s.define ∈ args) ∧
        (s.spelling ∉ feature.modeArguments i ladder →
          (∀ t ∈ facts.flatMap (·.switches), t.identifier = s.identifier →
            t.spelling = s.spelling) →
          (s.define ∈ args ↔ s.spelling ∈ args))) ∧
      (∀ fact ∈ facts, ∀ toggle ∈ fact.toggles,
        toggle.enable.identifier ≠ toggle.disable.identifier) ∧
      ∀ s ∈ tree.switches, s ∈ facts.flatMap (·.switches) ∧
        ∀ args ∈ test.invocations, ∀ env : Environment, env.RunWith args →
          env.defined s.identifier = true →
            ∃ t ∈ facts.flatMap (·.switches), t.identifier = s.identifier ∧ t.spelling ∈ args := by
  obtain ⟨hfacts, hsupport⟩ := SupportList.of_facts_eq_ok.mp haccepted
  have hlisted : (feature.supportFor i).facts = facts := by rw [hsupport]
  obtain ⟨test, htest⟩ := Feature.test_file_succeeds (by rwa [hlisted])
  obtain ⟨tree, htree, -⟩ := hfacts.tree_decides
  have hgrown : feature.decisionTree i ladder = .ok tree := by
    rw [← htree, ← hlisted]
    rfl
  have hpassed : ∀ args ∈ test.invocations, ∀ s : Switch, s.define ∈ args →
      ∃ t ∈ facts.flatMap (·.switches), t.identifier = s.identifier ∧ t.spelling ∈ args := by
    intro args hargs s hd
    rw [Feature.test_file_invocations htest] at hargs
    rw [← hlisted]
    exact Feature.passed_of_defined hargs hd
  refine ⟨test, tree, htest, hgrown, ?_, ?_, ?_, ?_⟩
  · intro entry he s hs
    rw [Feature.test_file_invocations htest]
    exact Feature.switch_passed he (by rwa [hlisted])
  · intro args hargs s _
    have hdefined : s.spelling ∉ feature.modeArguments i ladder → s.spelling ∈ args →
        s.define ∈ args := by
      intro hmode hp
      rw [Feature.test_file_invocations htest] at hargs
      exact Feature.defined_of_passed hargs hp hmode
    refine ⟨hpassed args hargs s, hdefined, fun hmode hown => ⟨?_, hdefined hmode⟩⟩
    intro hd
    obtain ⟨t, ht, hmacro, hp⟩ := hpassed args hargs s hd
    rwa [hown t ht hmacro] at hp
  · intro fact _ toggle _
    exact toggle.macros_differ
  · intro s hs
    refine ⟨hfacts.tree_switches htree hs, ?_⟩
    intro args hargs env hrun hd
    exact hpassed args hargs s ((hrun s.identifier).mp hd)

def coroutineFeature : Feature where
  name := "__cpp_impl_coroutine"
  kind := .language
  support := fun _ => some ⟨coroutineFacts, false⟩

theorem coroutine_runs_announce :
    SupportList.ofFacts coroutineFacts false .cpp = .ok (coroutineFeature.supportFor .gcc) ∧
      ∃ test, coroutineFeature.testFile .gcc .cpp = .ok test ∧
        ["-std=c++20", "-pedantic", "-fno-coroutines", "-DHASOPT_fno_coroutines=1"] ∈
          test.invocations ∧
        ∀ args ∈ test.invocations, ∀ s ∈ coroutineFacts.flatMap (·.switches),
          (s.define ∈ args ↔ s.spelling ∈ args) := by
  have haccepted :
      SupportList.ofFacts coroutineFacts false .cpp = .ok (coroutineFeature.supportFor .gcc) := rfl
  have hmode : ∀ s ∈ coroutineFacts.flatMap (·.switches),
      s.spelling ∉ coroutineFeature.modeArguments .gcc .cpp := by decide
  have hown : ∀ s ∈ coroutineFacts.flatMap (·.switches),
      ∀ t ∈ coroutineFacts.flatMap (·.switches),
        t.identifier = s.identifier → t.spelling = s.spelling := by decide
  obtain ⟨test, _, htest, -, -, hruns, -⟩ := runs_announce_passed_switches haccepted
  refine ⟨haccepted, test, htest, ?_, ?_⟩
  · rw [Feature.test_file_invocations htest]
    decide
  · intro args hargs s hs
    exact (hruns args hargs s hs).2.2 (hmode s hs) (hown s hs)

/-- Two switches that differ in a mark, and one that also selects a mode. -/
def markedFacts : List Fact := [
  { value := 1, enabledBy := [⟨"-fa-b", "HASOPT_fa_b", by rfl⟩] },
  { value := 2, enabledBy := [⟨"-fa_b", "HASOPT_fa_b", by rfl⟩] },
  { value := 3
    enabledBy := [⟨"-pedantic", "HASOPT_pedantic", by rfl⟩]
    strictSensitive := true }]

def markedFeature : Feature where
  name := "__cpp_marked"
  kind := .language
  support := fun _ => some ⟨markedFacts, false⟩

/-- The strict run that passes one switch of a shared macro announces the other, and does not
announce the switch that made it strict. -/
theorem shared_macro_announces_either :
    SupportList.ofFacts markedFacts false .cpp = .ok (markedFeature.supportFor .gcc) ∧
      ∃ test, markedFeature.testFile .gcc .cpp = .ok test ∧ ∃ args ∈ test.invocations,
        (∃ s ∈ markedFacts.flatMap (·.switches), s.define ∈ args ∧ s.spelling ∉ args) ∧
        ∃ s ∈ markedFacts.flatMap (·.switches), s.spelling ∈ args ∧ s.define ∉ args := by
  have haccepted :
      SupportList.ofFacts markedFacts false .cpp = .ok (markedFeature.supportFor .gcc) := rfl
  obtain ⟨hfacts, -⟩ := SupportList.of_facts_eq_ok.mp haccepted
  obtain ⟨test, htest⟩ : ∃ test, markedFeature.testFile .gcc .cpp = .ok test :=
    Feature.test_file_succeeds hfacts
  have hrun : ["-std=c++98", "-pedantic", "-fa-b", "-DHASOPT_fa_b=1"] ∈ test.invocations := by
    rw [Feature.test_file_invocations htest]
    decide
  refine ⟨haccepted, test, htest, _, hrun, ?_, ?_⟩
  · exact ⟨⟨"-fa_b", "HASOPT_fa_b", rfl⟩, by decide, by decide, by decide⟩
  · exact ⟨⟨"-pedantic", "HASOPT_pedantic", rfl⟩, by decide, by decide, by decide⟩

end FeatureTest
