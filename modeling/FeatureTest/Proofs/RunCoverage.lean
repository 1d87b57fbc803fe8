import FeatureTest.Proofs.Announcement

/-!
Which facts the option sets exercise. A set passes one switch at most, so it exercises the facts
that ask for one presence macro at most, and no others.
-/
namespace FeatureTest
open Success

/-- Where these presence macros are defined, all switches are passed that the fact asks for, and
none that it excludes. -/
structure Fact.MetBy (fact : Fact) (defined : String → Prop) : Prop where
  enabled : ∀ s ∈ fact.enabledBy, defined s.identifier
  toggled : fact.toggles ≠ [] → ∃ toggle ∈ fact.toggles, defined toggle.enable.identifier
  spared : ∀ s ∈ fact.disabledBy, ¬ defined s.identifier

/-- What the fact asks of switches does not contradict itself. -/
structure Fact.Satisfiable (fact : Fact) : Prop where
  enabled : ∀ s ∈ fact.enabledBy, ∀ d ∈ fact.disabledBy, s.identifier ≠ d.identifier
  toggled : fact.toggles ≠ [] → ∃ toggle ∈ fact.toggles, ∀ d ∈ fact.disabledBy,
    toggle.enable.identifier ≠ d.identifier

/-- The macros that these arguments define are such that the fact can apply. -/
def OptionSet.Exercises (args : OptionSet) (fact : Fact) : Prop :=
  fact.MetBy fun name => s!"-D{name}=1" ∈ args

namespace Fact

variable {fact : Fact} {defined defined' : String → Prop}

/-- Nothing but the fact's own switches matters. -/
theorem MetBy.of_agree (h : fact.MetBy defined)
    (hagree : ∀ s ∈ fact.switches, defined s.identifier ↔ defined' s.identifier) :
    fact.MetBy defined' := by
  have henable : ∀ toggle ∈ fact.toggles, toggle.enable ∈ fact.switches := by
    intro toggle ht
    simp only [switches, List.mem_append, List.mem_map]
    exact .inl (.inl (.inl ⟨toggle, ht, rfl⟩))
  refine ⟨?_, ?_, ?_⟩
  · intro s hs
    exact (hagree s (by simp [switches, hs])).mp (h.enabled s hs)
  · intro htoggles
    obtain ⟨toggle, ht, hd⟩ := h.toggled htoggles
    exact ⟨toggle, ht, (hagree _ (henable toggle ht)).mp hd⟩
  · intro s hs hd
    exact h.spared s hs ((hagree s (by simp [switches, hs])).mpr hd)

theorem satisfiable_iff : fact.Satisfiable ↔ ∃ defined, fact.MetBy defined := by
  constructor
  · intro h
    -- everything is defined that the fact does not exclude
    refine ⟨fun name => ∀ d ∈ fact.disabledBy, name ≠ d.identifier, h.enabled, h.toggled, ?_⟩
    exact fun s hs hd => hd s hs rfl
  · intro h
    obtain ⟨defined, h⟩ := h
    have hapart : ∀ name, defined name → ∀ d ∈ fact.disabledBy, name ≠ d.identifier := by
      rintro name hname d hd rfl
      exact h.spared d hd hname
    refine ⟨fun s hs => hapart _ (h.enabled s hs), fun htoggles => ?_⟩
    obtain ⟨toggle, ht, hd⟩ := h.toggled htoggles
    exact ⟨toggle, ht, hapart _ hd⟩

/-- A fact that a macro or none meets is met by the macro of one of its own switches or by none. -/
theorem MetBy.own_macro {name : Option String} (h : fact.MetBy (· ∈ name)) :
    fact.MetBy (fun _ => False) ∨
      ∃ s ∈ fact.switches, fact.MetBy (· = s.identifier) := by
  by_cases hused : ∃ s ∈ fact.switches, s.identifier ∈ name
  · obtain ⟨s, hs, hname⟩ := hused
    refine .inr ⟨s, hs, h.of_agree fun t _ => ?_⟩
    rw [Option.mem_def.mp hname, Option.mem_some_iff, eq_comm]
  · refine .inl (h.of_agree fun t ht => iff_false_intro fun hname => hused ⟨t, ht, hname⟩)

end Fact

theorem Switch.defined_by_own_set {s t : Switch} :
    t.define ∈ [s.spelling, s.define] ↔ t.identifier = s.identifier := by
  rw [List.mem_pair, define_eq_define]
  exact or_iff_right define_ne_spelling

namespace SupportList

variable {support : SupportList} {fact : Fact}

/-- An option set defines one macro of the facts' switches or none. -/
theorem macro_of_option_set {set : OptionSet} (hs : set ∈ support.optionSets) :
    ∃ name : Option String, ∀ t : Switch, t.define ∈ set ↔ t.identifier ∈ name := by
  rcases mem_option_sets.mp hs with rfl | ⟨s, -, rfl⟩
  · exact ⟨none, fun t => by simp⟩
  · refine ⟨some s.identifier, fun t => ?_⟩
    rw [Switch.defined_by_own_set, Option.mem_some_iff, eq_comm]

theorem exercised_iff (hf : fact ∈ support.facts) :
    (∃ set ∈ support.optionSets, OptionSet.Exercises set fact) ↔
      ∃ name : Option String, fact.MetBy (· ∈ name) := by
  constructor
  · intro h
    obtain ⟨set, hs, hmet⟩ := h
    obtain ⟨name, hname⟩ := macro_of_option_set hs
    exact ⟨name, hmet.of_agree fun s _ => hname s⟩
  · intro h
    obtain ⟨name, hmet⟩ := h
    rcases hmet.own_macro with hnone | ⟨s, hs, hone⟩
    · refine ⟨[], mem_option_sets.mpr (.inl rfl), hnone.of_agree fun t _ => ?_⟩
      simp
    · refine ⟨[s.spelling, s.define], mem_option_sets.mpr (.inr ⟨s, ?_, rfl⟩),
        hone.of_agree fun t _ => ?_⟩
      · exact List.mem_flatMap.mpr ⟨fact, hf, hs⟩
      · exact Switch.defined_by_own_set.symm

end SupportList

namespace Feature

variable {feature : Feature} {i : Implementation} {ladder : Ladder} {fact : Fact}

/-- What selects a standard or a mode exercises nothing by itself. -/
theorem exercises_append {selecting set : OptionSet}
    (hmodes : ∀ arg ∈ selecting, arg ∈ feature.modeArguments i ladder) :
    OptionSet.Exercises (selecting ++ set) fact ↔ OptionSet.Exercises set fact := by
  have hsame : ∀ s : Switch, s.define ∈ selecting ++ set ↔ s.define ∈ set := by
    intro s
    rw [List.mem_append]
    exact or_iff_right fun hd => define_not_mem_modes s (hmodes _ hd)
  exact ⟨fun h => h.of_agree fun s _ => hsame s, fun h => h.of_agree fun s _ => (hsame s).symm⟩

/-- Under each standard the runs exercise what the option sets do. -/
theorem run_exercises_iff {entry : Standard × String} (he : entry ∈ ladder.standardSwitches i) :
    (∃ args ∈ feature.invocations i ladder, entry.2 ∈ args ∧ OptionSet.Exercises args fact) ↔
      ∃ set ∈ (feature.supportFor i).optionSets, OptionSet.Exercises set fact := by
  constructor
  · intro h
    obtain ⟨args, hargs, -, hmet⟩ := h
    obtain ⟨selecting, set, hmodes, hs, rfl⟩ := invocation_parts hargs
    exact ⟨set, hs, (exercises_append hmodes).mp hmet⟩
  · intro h
    obtain ⟨set, hs, hmet⟩ := h
    obtain ⟨mode, hm⟩ := List.exists_mem_of_ne_nil _ (feature.supportFor i).modes_ne_nil
    have hmodes : ∀ arg ∈ entry.2 :: mode, arg ∈ feature.modeArguments i ladder := by
      intro arg harg
      rcases List.mem_cons.mp harg with rfl | harg
      · exact List.mem_append_left _ (List.mem_map_of_mem he)
      · exact List.mem_append_right _ (List.mem_flatten_of_mem hm harg)
    exact ⟨_, mem_invocations.mpr ⟨entry, he, set, hs, mode, hm, rfl⟩, by simp,
      (exercises_append hmodes).mpr hmet⟩

end Feature

/-- Of the facts that some choice of switches meets, the option sets of an accepted list exercise
just those that a single presence macro meets, or none at all. So do the runs of the test, under
each standard. -/
theorem exercised_facts_ask_one_macro {feature : Feature} {i : Implementation} {ladder : Ladder}
    {facts : List Fact} {removed : Bool}
    (haccepted : SupportList.ofFacts facts removed ladder = .ok (feature.supportFor i)) :
    ∃ test, feature.testFile i ladder = .ok test ∧ ∀ fact ∈ facts,
      (fact.Satisfiable ↔ ∃ defined, fact.MetBy defined) ∧
      ((∃ set ∈ (feature.supportFor i).optionSets, OptionSet.Exercises set fact) ↔
        ∃ name : Option String, fact.MetBy (· ∈ name)) ∧
      ∀ entry ∈ ladder.standardSwitches i,
        (∃ args ∈ test.invocations, entry.2 ∈ args ∧ OptionSet.Exercises args fact) ↔
          ∃ name : Option String, fact.MetBy (· ∈ name) := by
  obtain ⟨hfacts, hsupport⟩ := SupportList.of_facts_eq_ok.mp haccepted
  have hlisted : (feature.supportFor i).facts = facts := by rw [hsupport]
  obtain ⟨test, htest⟩ := Feature.test_file_succeeds (by rwa [hlisted])
  refine ⟨test, htest, fun fact hf => ?_⟩
  have hmember : fact ∈ (feature.supportFor i).facts := by rwa [hlisted]
  have hexercised := SupportList.exercised_iff hmember
  refine ⟨Fact.satisfiable_iff, hexercised, fun entry he => ?_⟩
  rw [Feature.test_file_invocations htest, Feature.run_exercises_iff he, hexercised]

/-- A value that one switch turns on, and a later one that takes a second switch. -/
def modulesFacts : List Fact := [
  { value := 201810, enabledBy := [⟨"-fmodules-ts", "HASOPT_fmodules_ts", by rfl⟩] },
  { value := 201907
    enabledBy := [⟨"-fmodules-ts", "HASOPT_fmodules_ts", by rfl⟩,
      ⟨"-fconcepts", "HASOPT_fconcepts", by rfl⟩] }]

def modulesFeature : Feature where
  name := "__cpp_modules"
  kind := .language
  support := fun _ => some ⟨modulesFacts, false⟩

theorem modules_fact_exercised :
    SupportList.ofFacts modulesFacts false .cpp = .ok (modulesFeature.supportFor .gcc) ∧
      ∃ test, modulesFeature.testFile .gcc .cpp = .ok test ∧ ∃ fact ∈ modulesFacts,
        ∃ args ∈ test.invocations, "-std=c++20" ∈ args ∧ OptionSet.Exercises args fact := by
  have haccepted :
      SupportList.ofFacts modulesFacts false .cpp = .ok (modulesFeature.supportFor .gcc) := rfl
  obtain ⟨test, htest, hexercised⟩ := exercised_facts_ask_one_macro haccepted
  have hfirst : modulesFacts[0] ∈ modulesFacts := List.getElem_mem _
  obtain ⟨-, -, hruns⟩ := hexercised _ hfirst
  have hstandard : (⟨"C++20", some 202002⟩, "-std=c++20") ∈
      Ladder.cpp.standardSwitches .gcc := by decide
  refine ⟨haccepted, test, htest, _, hfirst, (hruns _ hstandard).mpr ?_⟩
  exact ⟨some "HASOPT_fmodules_ts", by simp [modulesFacts], by simp [modulesFacts],
    by simp [modulesFacts]⟩

/-- No option set passes both switches of the later value, though nothing speaks against it. -/
theorem second_switch_unexercised :
    SupportList.ofFacts modulesFacts false .cpp = .ok (modulesFeature.supportFor .gcc) ∧
      ∃ fact ∈ modulesFacts, fact.Satisfiable ∧
        ¬ ∃ set ∈ (modulesFeature.supportFor .gcc).optionSets, OptionSet.Exercises set fact := by
  have hlater : modulesFacts[1] ∈ (modulesFeature.supportFor .gcc).facts := List.getElem_mem _
  refine ⟨rfl, _, hlater, ⟨by simp [modulesFacts], by simp [modulesFacts]⟩, ?_⟩
  rw [SupportList.exercised_iff hlater]
  rintro ⟨name, hmet⟩
  have hmacros : ∀ macro_ ∈ ["HASOPT_fmodules_ts", "HASOPT_fconcepts"], macro_ ∈ name := by
    simpa [modulesFacts] using hmet.enabled
  have hboth : some "HASOPT_fmodules_ts" = some "HASOPT_fconcepts" :=
    (hmacros _ (by simp)).symm.trans (hmacros _ (by simp))
  exact absurd hboth (by decide)

end FeatureTest
