import FeatureTest.Condition

/-!
Decision trees: which value an identifier must have, decided by conditions tried in order.
-/
namespace FeatureTest

mutual

/-- What a generated test checks. -/
inductive DecisionTree where
  /-- The identifier must have this value. -/
  | value (expected : Nat)
  /-- The identifier must be undefined, or zero as an attribute. -/
  | absent
  | branch (condition : Condition) (body : DecisionTree) (rest : Alternatives)

/-- What follows the first arm of a branch. -/
inductive Alternatives where
  | otherwise (body : DecisionTree)
  | arm (condition : Condition) (body : DecisionTree) (rest : Alternatives)

end

mutual

/-- The number of conditional blocks that the tree opens. -/
def DecisionTree.blockCount : DecisionTree → Nat
  | .value _ | .absent => 0
  | .branch _ body rest => 1 + body.blockCount + rest.blockCount

def Alternatives.blockCount : Alternatives → Nat
  | .otherwise body => body.blockCount
  | .arm _ body rest => body.blockCount + rest.blockCount

end

mutual

/-- Takes the first arm whose tests all hold. -/
def DecisionTree.evaluate (holds : Conjunct → Bool) : DecisionTree → Option Nat
  | .value expected => some expected
  | .absent => none
  | .branch condition body rest =>
    if condition.conjuncts.all holds then body.evaluate holds else rest.evaluate holds

def Alternatives.evaluate (holds : Conjunct → Bool) : Alternatives → Option Nat
  | .otherwise body => body.evaluate holds
  | .arm condition body rest =>
    if condition.conjuncts.all holds then body.evaluate holds else rest.evaluate holds

end

/-- Tries facts in order: the first whose guard holds decides, and when none does the identifier
must be absent. A toggled fact also decides when it is switched off. -/
def DecisionTree.ofFacts (ladder : Ladder) : List Fact → Except GenerationError DecisionTree
  | [] => .ok .absent
  | fact :: rest => do
    let guarded ← fact.guarded ladder
    match guarded.toggle with
    | some toggle =>
      return .branch (guarded.condition.and toggle.enabled) (.value guarded.value)
        (.arm (guarded.condition.and toggle.disabled) .absent (.otherwise (← ofFacts ladder rest)))
    | none =>
      if guarded.condition.isAlways then
        if rest.isEmpty then return .value guarded.value
        else throw (.unreachableFacts guarded.value rest.length)
      else
        return .branch guarded.condition (.value guarded.value) (.otherwise (← ofFacts ladder rest))

end FeatureTest
