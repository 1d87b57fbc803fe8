import FeatureTest.Condition
import FeatureTest.Proofs.Acceptance

/-!
The guard of a fact whose standard is known, without the failures that its compilation allows for.
-/
namespace FeatureTest.Fact
open Success

variable {fact : Fact} {ladder : Ladder}

/-- The test for `since`, where one is needed. -/
def sinceGuard (fact : Fact) (ladder : Ladder) : List Conjunct :=
  (((fact.since.bind ladder.rung?).bind ladder.previousWatermark).map Conjunct.past).toList

/-- The tests for switches that turn the value on or off, where there are any. -/
def toggleGuard (fact : Fact) : Option ToggleTests :=
  if fact.toggles = [] then none
  else some ⟨.anyPassed (fact.toggles.map (·.enable)), .anyPassed (fact.toggles.map (·.disable))⟩

def guard (fact : Fact) (ladder : Ladder) : GuardedValue :=
  ⟨fact.value, ⟨fact.sinceGuard ladder ++ fact.switchTests⟩, fact.toggleGuard⟩

theorem toggles_of_guard {tests : ToggleTests} (h : fact.toggleGuard = some tests) :
    fact.toggles.isEmpty = false := by
  unfold toggleGuard at h
  split at h
  · cases h
  · simpa

theorem toggles_of_no_guard (h : fact.toggleGuard = none) : fact.toggles.isEmpty = true := by
  unfold toggleGuard at h
  split at h
  · simpa
  · cases h

theorem since_tests_known (hk : ∀ name ∈ fact.since, name ∈ ladder.names) :
    fact.sinceTests ladder = .ok (fact.sinceGuard ladder) := by
  unfold sinceTests sinceGuard
  cases hs : fact.since with
  | none => rfl
  | some name =>
    obtain ⟨rung, hr⟩ := Ladder.rung_of_mem (hk name hs)
    simp only [Ladder.require_eq_ok.mpr hr, hr, Option.bind_some]
    rfl

/-- Compiling a fact fails for nothing but an unknown standard. -/
theorem guarded_known (hk : ∀ name ∈ fact.since, name ∈ ladder.names) :
    fact.guarded ladder = .ok (fact.guard ladder) := by
  unfold guarded guard toggleGuard
  rw [since_tests_known hk]
  by_cases ht : fact.toggles = []
  · simp [ht, Except.mapError, bind, Except.bind, pure, Except.pure]
  · simp [ht, Except.mapError, ToggleTests.ofToggles, bind, Except.bind, pure, Except.pure,
      Functor.map, Except.map]

theorem since_guard_empty : (fact.sinceGuard ladder).isEmpty = !fact.sinceRestricts ladder := by
  unfold sinceGuard sinceRestricts
  cases fact.since.bind ladder.rung? with
  | none => rfl
  | some rung => cases hw : ladder.previousWatermark rung <;> simp [hw]

theorem switch_tests_empty :
    fact.switchTests.isEmpty = !(!fact.enabledBy.isEmpty || !fact.disabledBy.isEmpty ||
      fact.depends.isSome || fact.strictSensitive) := by
  unfold switchTests
  cases fact.enabledBy <;> cases fact.disabledBy <;> cases fact.depends <;>
    cases fact.strictSensitive <;> rfl

/-- The validator and the compiler agree on which facts are unconditional. -/
theorem guard_unconditional (fact : Fact) (ladder : Ladder) :
    (fact.guard ladder).isUnconditional = !fact.hasCondition ladder := by
  have htoggle : fact.toggleGuard.isNone = fact.toggles.isEmpty := by
    unfold toggleGuard
    cases fact.toggles <;> rfl
  have happend : (fact.sinceGuard ladder ++ fact.switchTests).isEmpty =
      ((fact.sinceGuard ladder).isEmpty && fact.switchTests.isEmpty) := by
    cases fact.sinceGuard ladder <;> rfl
  simp only [GuardedValue.isUnconditional, guard, Condition.isAlways, happend, since_guard_empty,
    switch_tests_empty, htoggle, hasCondition]
  cases fact.sinceRestricts ladder <;> cases fact.toggles.isEmpty <;> simp

end FeatureTest.Fact
