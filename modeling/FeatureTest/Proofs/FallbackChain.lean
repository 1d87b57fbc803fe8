import Mathlib.Algebra.GroupWithZero.Nat
import FeatureTest.Proofs.TreeTests

/-!
The chain of fallbacks of a decision tree: which facts it visits, how many blocks they open, and
where it ends. The validator and the compiler of facts each decide on their own what a condition is;
that they agree is what keeps each fact reachable.
-/
namespace FeatureTest

/-- What decides at one place of a chain of fallbacks. -/
inductive Stop where
  /-- A block, by the first of its arms that holds. -/
  | block (arms : List (Condition × DecisionTree))
  /-- A value that is asserted in any case. -/
  | value (expected : Nat)

/-- The arms that come after the first of a branch. -/
def Alternatives.arms : Alternatives → List (Condition × DecisionTree)
  | .otherwise _ => []
  | .arm condition body rest => (condition, body) :: rest.arms

mutual

/-- The places that fallbacks lead through, from the tree's own on. -/
def DecisionTree.stops : DecisionTree → List Stop
  | .value expected => [.value expected]
  | .absent => []
  | .branch condition body rest => .block ((condition, body) :: rest.arms) :: rest.stops

def Alternatives.stops : Alternatives → List Stop
  | .otherwise body => body.stops
  | .arm _ _ rest => rest.stops

end

mutual

/-- The check that is left when all arms on the chain of fallbacks fail. -/
def DecisionTree.ending : DecisionTree → DecisionTree
  | .value expected => .value expected
  | .absent => .absent
  | .branch _ _ rest => rest.ending

def Alternatives.ending : Alternatives → DecisionTree
  | .otherwise body => body.ending
  | .arm _ _ rest => rest.ending

end

namespace Stop

/-- The blocks that are opened at a place, its arms' own included. -/
def blockCount : Stop → Nat
  | .block arms => 1 + (arms.map (·.2.blockCount)).sum
  | .value _ => 0

def isBlock : Stop → Bool
  | .block _ => true
  | .value _ => false

end Stop

mutual

theorem tree_blocks : ∀ tree : DecisionTree,
    tree.blockCount = (tree.stops.map (·.blockCount)).sum
  | .value _ | .absent => rfl
  | .branch _ body rest => by
    simp only [DecisionTree.blockCount, DecisionTree.stops, Stop.blockCount, List.map_cons,
      List.sum_cons, rest_blocks rest]
    omega

theorem rest_blocks : ∀ rest : Alternatives,
    rest.blockCount = (rest.arms.map (·.2.blockCount)).sum + (rest.stops.map (·.blockCount)).sum
  | .otherwise body => by
    rw [Alternatives.blockCount, tree_blocks body, Alternatives.arms, Alternatives.stops]
    simp
  | .arm _ body rest => by
    rw [Alternatives.blockCount, rest_blocks rest, Alternatives.arms, Alternatives.stops,
      List.map_cons, List.sum_cons, Nat.add_assoc]

end

mutual

theorem tree_ends_absent : ∀ tree : DecisionTree,
    tree.ending = .absent ↔ ∀ stop ∈ tree.stops, stop.isBlock = true
  | .value _ => by simp [DecisionTree.ending, DecisionTree.stops, Stop.isBlock]
  | .absent => by simp [DecisionTree.ending, DecisionTree.stops]
  | .branch _ _ rest => by
    simp [DecisionTree.ending, DecisionTree.stops, rest_ends_absent rest, Stop.isBlock]

theorem rest_ends_absent : ∀ rest : Alternatives,
    rest.ending = .absent ↔ ∀ stop ∈ rest.stops, stop.isBlock = true
  | .otherwise body => tree_ends_absent body
  | .arm _ _ rest => rest_ends_absent rest

end

namespace GuardedValue

variable {guarded : GuardedValue}

/-- The arms of the block that a value is decided in. A toggled value is refused where it is
switched off. -/
def arms (guarded : GuardedValue) : List (Condition × DecisionTree) :=
  match guarded.toggle with
  | some toggle => [
      (guarded.condition.and toggle.enabled, .value guarded.value),
      (guarded.condition.and toggle.disabled, .absent)]
  | none => [(guarded.condition, .value guarded.value)]

/-- The place of a value on the chain of fallbacks. -/
def stop (guarded : GuardedValue) : Stop :=
  if guarded.isUnconditional then .value guarded.value else .block guarded.arms

theorem stop_blocks : guarded.stop.blockCount = if guarded.isUnconditional then 0 else 1 := by
  have hleaves : ((guarded.arms).map (·.2.blockCount)).sum = 0 := by
    unfold arms
    cases guarded.toggle <;> rfl
  unfold stop
  split
  · rfl
  · rw [Stop.blockCount, hleaves]

theorem stop_is_block : guarded.stop.isBlock = !guarded.isUnconditional := by
  unfold stop
  cases guarded.isUnconditional <;> rfl

theorem stop_toggled {toggle : ToggleTests} (h : guarded.toggle = some toggle) :
    guarded.stop = .block [
      (guarded.condition.and toggle.enabled, .value guarded.value),
      (guarded.condition.and toggle.disabled, .absent)] := by
  simp [stop, arms, isUnconditional, h]

theorem stop_guarded (h : guarded.toggle = none) (hc : guarded.condition.isAlways = false) :
    guarded.stop = .block [(guarded.condition, .value guarded.value)] := by
  simp [stop, arms, isUnconditional, h, hc]

theorem stop_unconditional (h : guarded.toggle = none) (hc : guarded.condition.isAlways = true) :
    guarded.stop = .value guarded.value := by
  simp [stop, isUnconditional, h, hc]

end GuardedValue

section Chains

variable {ladder : Ladder} {facts : List Fact} {tree : DecisionTree}

/-- The chain of fallbacks leads through the facts, each at its own place. -/
theorem of_facts_stops (hk : ∀ fact ∈ facts, ∀ name ∈ fact.since, name ∈ ladder.names)
    (h : DecisionTree.ofFacts ladder facts = .ok tree) :
    tree.stops = facts.map fun fact => (fact.guard ladder).stop := by
  induction facts generalizing tree with
  | nil =>
    cases h
    rfl
  | cons fact rest ih =>
    obtain ⟨hfact, hrest⟩ := List.forall_mem_cons.mp hk
    rw [List.map_cons]
    rcases of_facts_cons hfact h with
      ⟨toggle, later, htoggle, hlater, rfl⟩ | ⟨htoggle, hguarded, later, hlater, rfl⟩ |
        ⟨htoggle, halways, rfl, rfl⟩
    · rw [GuardedValue.stop_toggled htoggle, ← ih hrest hlater]
      rfl
    · rw [GuardedValue.stop_guarded htoggle hguarded, ← ih hrest hlater]
      rfl
    · rw [GuardedValue.stop_unconditional htoggle halways]
      rfl

/-- Each fact with a condition opens one block on the chain. -/
theorem stops_blocks (facts : List Fact) (ladder : Ladder) :
    ((facts.map fun fact => (fact.guard ladder).stop).map (·.blockCount)).sum =
      facts.countP (·.hasCondition ladder) := by
  induction facts with
  | nil => rfl
  | cons fact rest ih =>
    rw [List.map_cons, List.map_cons, List.sum_cons, ih, GuardedValue.stop_blocks,
      fact.guard_unconditional, List.countP_cons, Nat.add_comm]
    cases fact.hasCondition ladder <;> rfl

theorem of_facts_blocks (hk : ∀ fact ∈ facts, ∀ name ∈ fact.since, name ∈ ladder.names)
    (h : DecisionTree.ofFacts ladder facts = .ok tree) :
    tree.blockCount = facts.countP (·.hasCondition ladder) := by
  rw [tree_blocks, of_facts_stops hk h, stops_blocks]

theorem of_facts_end (hk : ∀ fact ∈ facts, ∀ name ∈ fact.since, name ∈ ladder.names)
    (h : DecisionTree.ofFacts ladder facts = .ok tree) :
    tree.ending = .absent ↔ ∀ fact ∈ facts, fact.hasCondition ladder = true := by
  rw [tree_ends_absent, of_facts_stops hk h, List.forall_mem_map]
  simp only [GuardedValue.stop_is_block, Fact.guard_unconditional, Bool.not_not]

end Chains

/-- A fact whose standard is known has a guard, and the guard asks nothing just where the validator
finds no condition on the fact. So every accepted list of facts has a tree with one block for each
fact that has a condition. Its fallbacks lead through all of the facts, from the highest value to
the lowest, and through each one once, and they end where the identifier must be absent unless one
of the facts is unconditional. -/
theorem fallbacks_visit_each_fact (ladder : Ladder) :
    (∀ fact : Fact, (∀ name ∈ fact.since, name ∈ ladder.names) →
      ∃ guarded, fact.guarded ladder = .ok guarded ∧
        (guarded.isUnconditional = true ↔ fact.hasCondition ladder = false)) ∧
    ∀ facts removed support, SupportList.ofFacts facts removed ladder = .ok support →
      ∃ tree, DecisionTree.ofFacts ladder support.mostSpecificFirst = .ok tree ∧
        tree.blockCount = facts.countP (·.hasCondition ladder) ∧
        List.Forall₂ (fun fact stop => ∃ guarded, fact.guarded ladder = .ok guarded ∧
          stop = guarded.stop) facts.reverse tree.stops ∧
        (tree.ending = .absent ↔ ∀ fact ∈ facts, fact.hasCondition ladder = true) := by
  constructor
  · intro fact hk
    refine ⟨_, Fact.guarded_known hk, ?_⟩
    rw [Fact.guard_unconditional, Bool.not_eq_true']
  · intro facts removed support hsupport
    obtain ⟨haccepted, rfl⟩ := SupportList.of_facts_eq_ok.mp hsupport
    have hk := haccepted.known_reverse
    obtain ⟨tree, htree, -⟩ := haccepted.tree_decides
    refine ⟨tree, htree, ?_, ?_, ?_⟩
    · rw [of_facts_blocks hk htree, List.countP_reverse]
    · rw [of_facts_stops hk htree, List.forall₂_map_right_iff, List.forall₂_same]
      intro fact hf
      exact ⟨_, Fact.guarded_known (hk fact hf), rfl⟩
    · rw [of_facts_end hk htree]
      simp only [List.mem_reverse]

/-- A value since the first standard, which is no condition, and above it one with a toggle and one
with a switch that must not be passed. -/
def deductionFacts : List Fact := [
  { value := 201606, since := some "C++98" },
  { value := 201703
    toggles := [⟨⟨"-fguides", "HASOPT_fguides", by rfl⟩,
      ⟨"-fno-guides", "HASOPT_fno_guides", by rfl⟩, by rfl⟩] },
  { value := 201907, disabledBy := [⟨"-flegacy", "HASOPT_flegacy", by rfl⟩] }]

theorem deduction_fallbacks :
    (∀ fact ∈ deductionFacts, ∃ guarded, fact.guarded .cpp = .ok guarded ∧
      (guarded.isUnconditional = true ↔ fact.hasCondition .cpp = false)) ∧
    SupportList.ofFacts deductionFacts false .cpp = .ok ⟨deductionFacts, false⟩ ∧
      ∃ tree, DecisionTree.ofFacts .cpp deductionFacts.reverse = .ok tree ∧
        tree.blockCount = 2 ∧ tree.stops.length = 3 ∧ tree.ending ≠ .absent := by
  obtain ⟨hguards, htrees⟩ := fallbacks_visit_each_fact .cpp
  have h : SupportList.ofFacts deductionFacts false .cpp = .ok ⟨deductionFacts, false⟩ := rfl
  obtain ⟨tree, htree, hblocks, hstops, hending⟩ := htrees _ _ _ h
  refine ⟨fun fact hf => hguards fact ?_, h, tree, htree, hblocks, hstops.length_eq.symm, ?_⟩
  · revert fact
    decide
  · rw [ne_eq, hending]
    decide

end FeatureTest
