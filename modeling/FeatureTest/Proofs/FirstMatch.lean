import FeatureTest.DecisionTree
import FeatureTest.Proofs.Guard
import FeatureTest.Proofs.TestReading

/-!
The value that facts give an identifier, read off them in the order of their priority, and the
agreement of the decision tree with it.
-/
namespace FeatureTest
open Success

namespace Fact

variable (fact : Fact) (ladder : Ladder) (env : Environment)

/-- Whether the standard in use is at least `since`: past the revision right before it. -/
def sinceReached : Bool :=
  match fact.since.bind ladder.rung? with
  | none => true
  | some rung => (ladder.previousWatermark rung).all (· < env.cplusplus)

/-- Whether the fact applies, its toggling switches aside. -/
def applies : Bool :=
  fact.sinceReached ladder env &&
  fact.enabledBy.all (env.defined ·.identifier) &&
  fact.disabledBy.all (!env.defined ·.identifier) &&
  fact.depends.all (fun expression => env.truth ("(" ++ expression ++ ")")) &&
  !(fact.strictSensitive && env.strict)

def switchedOn : Bool := fact.toggles.any (env.defined ·.enable.identifier)

def switchedOff : Bool := fact.toggles.any (env.defined ·.disable.identifier)

end Fact

/-- Walks facts from the most specific on. The first that applies decides; a toggled one does so
only when it is switched on, or else off, and is passed over when neither switch is there. -/
def firstMatch (ladder : Ladder) (env : Environment) : List Fact → Option Nat
  | [] => none
  | fact :: rest =>
    if !fact.applies ladder env then firstMatch ladder env rest
    else if fact.toggles.isEmpty || fact.switchedOn env then some fact.value
    else if fact.switchedOff env then none
    else firstMatch ladder env rest

/-- A reading of tests that takes each legible one for what it says. -/
def Reading (env : Environment) (holds : Conjunct → Bool) : Prop :=
  ∀ c : Conjunct, c.Legible → holds c = c.holds env

section Guards

variable {env : Environment} {holds : Conjunct → Bool} {ladder : Ladder} {fact : Fact}

theorem since_guard_reading (hr : Reading env holds) :
    (fact.sinceGuard ladder).all holds = fact.sinceReached ladder env := by
  unfold Fact.sinceGuard Fact.sinceReached
  cases fact.since.bind ladder.rung? with
  | none => rfl
  | some rung =>
    cases hw : ladder.previousWatermark rung with
    | none => simp [hw]
    | some w => simp [hw, hr (.past w) trivial, Conjunct.holds]

theorem guard_reading (hr : Reading env holds) :
    (fact.guard ladder).condition.conjuncts.all holds = fact.applies ladder env := by
  have henabled : (if fact.enabledBy.isEmpty then [] else [Conjunct.allPassed fact.enabledBy]).all
      holds = fact.enabledBy.all (env.defined ·.identifier) := by
    cases he : fact.enabledBy with
    | nil => rfl
    | cons s rest => simp [hr (.allPassed (s :: rest)) (by simp [Conjunct.Legible]), Conjunct.holds]
  have hdisabled : (if fact.disabledBy.isEmpty then [] else
      [Conjunct.nonePassed fact.disabledBy]).all holds =
      fact.disabledBy.all (!env.defined ·.identifier) := by
    cases hd : fact.disabledBy with
    | nil => rfl
    | cons s rest => simp [hr (.nonePassed (s :: rest)) (by simp [Conjunct.Legible]), Conjunct.holds]
  have hdepends : (fact.depends.map fun e => Conjunct.expression ("(" ++ e ++ ")")).toList.all
      holds = fact.depends.all (fun e => env.truth ("(" ++ e ++ ")")) := by
    cases hd : fact.depends with
    | none => rfl
    | some e => simp [hr (.expression ("(" ++ e ++ ")")) ⟨e, rfl⟩, Conjunct.holds]
  have hstrict : (if fact.strictSensitive then [Conjunct.nonPedantic] else []).all holds =
      !(fact.strictSensitive && env.strict) := by
    cases fact.strictSensitive with
    | false => rfl
    | true => simp [hr .nonPedantic trivial, Conjunct.holds]
  simp only [Fact.guard, Fact.switchTests, List.all_append, since_guard_reading hr, henabled,
    hdisabled, hdepends, hstrict, Fact.applies, Bool.and_assoc]

/-- The two tests of a toggled fact ask for a switch and for its negation. -/
theorem toggle_guard_reading (hr : Reading env holds) {tests : ToggleTests}
    (ht : fact.toggleGuard = some tests) :
    holds tests.enabled = fact.switchedOn env ∧ holds tests.disabled = fact.switchedOff env := by
  unfold Fact.toggleGuard at ht
  split at ht
  · cases ht
  · rename_i hne
    cases ht
    have henable := hr (.anyPassed (fact.toggles.map (·.enable))) (by simpa [Conjunct.Legible])
    have hdisable := hr (.anyPassed (fact.toggles.map (·.disable))) (by simpa [Conjunct.Legible])
    simp only [henable, hdisable, Conjunct.holds, List.any_map]
    exact ⟨rfl, rfl⟩

end Guards

/-- Tried from the last on, accepted facts have a condition as long as another one follows. -/
theorem AcceptedFacts.conditional_reverse {facts : List Fact} {ladder : Ladder}
    (h : AcceptedFacts facts ladder) :
    facts.reverse.Pairwise fun fact _ => fact.hasCondition ladder = true := by
  rw [List.pairwise_reverse]
  have hc := h.conditional
  cases facts with
  | nil => exact .nil
  | cons fact rest =>
    rw [List.tail_cons] at hc
    refine List.pairwise_cons.mpr ⟨hc, ?_⟩
    exact List.pairwise_of_forall_mem_list fun _ _ f hf => hc f hf

section Growth

variable {ladder : Ladder} {fact : Fact} {rest : List Fact} {tree : DecisionTree}

theorem of_facts_toggled {tests : ToggleTests} (hk : ∀ name ∈ fact.since, name ∈ ladder.names)
    (htests : fact.toggleGuard = some tests) (ht : DecisionTree.ofFacts ladder rest = .ok tree) :
    DecisionTree.ofFacts ladder (fact :: rest) =
      .ok (.branch ((fact.guard ladder).condition.and tests.enabled) (.value fact.value)
        (.arm ((fact.guard ladder).condition.and tests.disabled) .absent (.otherwise tree))) := by
  simp only [DecisionTree.ofFacts, Fact.guarded_known hk, ht, bind_eq_ok]
  exact ⟨_, rfl, by simp only [Fact.guard, htests]; rfl⟩

theorem of_facts_guarded (hk : ∀ name ∈ fact.since, name ∈ ladder.names)
    (htests : fact.toggleGuard = none) (hc : fact.hasCondition ladder = true)
    (ht : DecisionTree.ofFacts ladder rest = .ok tree) :
    DecisionTree.ofFacts ladder (fact :: rest) =
      .ok (.branch (fact.guard ladder).condition (.value fact.value) (.otherwise tree)) := by
  have ha : (fact.guard ladder).condition.isAlways = false := by
    simpa [GuardedValue.isUnconditional, Fact.guard, htests, hc]
      using fact.guard_unconditional ladder
  simp only [DecisionTree.ofFacts, Fact.guarded_known hk, ht, bind_eq_ok]
  exact ⟨_, rfl, by simp only [Fact.guard] at ha ⊢; simp only [htests, ha]; rfl⟩

theorem of_facts_unconditional (hk : ∀ name ∈ fact.since, name ∈ ladder.names)
    (hc : fact.hasCondition ladder = false) :
    DecisionTree.ofFacts ladder [fact] = .ok (.value fact.value) := by
  have hu := fact.guard_unconditional ladder
  simp only [GuardedValue.isUnconditional, hc, Bool.not_false, Bool.and_eq_true,
    Option.isNone_iff_eq_none, Fact.guard] at hu
  simp only [DecisionTree.ofFacts, Fact.guarded_known hk, bind_eq_ok]
  exact ⟨_, rfl, by simp only [Fact.guard, hu]; rfl⟩

end Growth

/-- The tree of facts of which each but the last has a condition exists, and under every reading of
its tests it decides as the first match does. -/
theorem of_facts_decides {ladder : Ladder} {facts : List Fact}
    (hk : ∀ fact ∈ facts, ∀ name ∈ fact.since, name ∈ ladder.names)
    (hc : facts.Pairwise fun fact _ => fact.hasCondition ladder = true) :
    ∃ tree, DecisionTree.ofFacts ladder facts = .ok tree ∧
      ∀ env holds, Reading env holds → tree.evaluate holds = firstMatch ladder env facts := by
  induction facts with
  | nil => exact ⟨.absent, rfl, fun _ _ _ => rfl⟩
  | cons fact rest ih =>
    obtain ⟨hhead, htail⟩ := List.pairwise_cons.mp hc
    have hkf := hk fact List.mem_cons_self
    obtain ⟨tree, ht, he⟩ := ih (fun f hf => hk f (List.mem_cons_of_mem _ hf)) htail
    cases htests : fact.toggleGuard with
    | some tests =>
      refine ⟨_, of_facts_toggled hkf htests ht, ?_⟩
      intro env holds hr
      obtain ⟨hon, hoff⟩ := toggle_guard_reading hr htests
      simp only [DecisionTree.evaluate, Alternatives.evaluate, Condition.and, List.all_append,
        List.all_cons, List.all_nil, guard_reading hr, hon, hoff, he env holds hr, firstMatch,
        Fact.toggles_of_guard htests]
      cases fact.applies ladder env <;> cases fact.switchedOn env <;>
        cases fact.switchedOff env <;> rfl
    | none =>
      have hempty := Fact.toggles_of_no_guard htests
      by_cases hf : fact.hasCondition ladder = true
      · refine ⟨_, of_facts_guarded hkf htests hf ht, ?_⟩
        intro env holds hr
        simp only [DecisionTree.evaluate, Alternatives.evaluate, guard_reading hr,
          he env holds hr, firstMatch, hempty]
        cases fact.applies ladder env <;> rfl
      · have hlast : rest = [] :=
          List.eq_nil_iff_forall_not_mem.mpr fun f hm => hf (hhead f hm)
        subst hlast
        refine ⟨_, of_facts_unconditional hkf (by simpa using hf), ?_⟩
        intro env holds hr
        have ha : fact.applies ladder env = true := by
          have hu := fact.guard_unconditional ladder
          simp only [Bool.not_eq_true] at hf
          simp only [GuardedValue.isUnconditional, hf, Bool.not_false, Bool.and_eq_true,
            Condition.isAlways, List.isEmpty_iff] at hu
          rw [← guard_reading hr, hu.1]
          rfl
        simp [DecisionTree.evaluate, firstMatch, ha, hempty]

/-- Accepted facts, tried from the last on, have a tree that decides as their first match does. -/
theorem AcceptedFacts.tree_decides {facts : List Fact} {ladder : Ladder}
    (h : AcceptedFacts facts ladder) :
    ∃ tree, DecisionTree.ofFacts ladder facts.reverse = .ok tree ∧
      ∀ env holds, Reading env holds →
        tree.evaluate holds = firstMatch ladder env facts.reverse :=
  of_facts_decides h.known_reverse h.conditional_reverse

/-- A value since C++20, and above it one that a switch turns on or off outside strict mode. -/
def coroutineFacts : List Fact := [
  { value := 201902, since := some "C++20", depends := some "__cpp_exceptions" },
  { value := 202002
    toggles := [⟨⟨"-fcoroutines", "HASOPT_fcoroutines", by rfl⟩,
      ⟨"-fno-coroutines", "HASOPT_fno_coroutines", by rfl⟩, by rfl⟩]
    disabledBy := [⟨"-O0", "HASOPT_O0", by rfl⟩]
    strictSensitive := true }]

end FeatureTest
