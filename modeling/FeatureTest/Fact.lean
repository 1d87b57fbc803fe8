import FeatureTest.Ladder
import FeatureTest.Switch

/-!
Facts: the values one implementation gives an identifier, each with the condition it holds under.
-/
namespace FeatureTest

structure Fact where
  value : Nat
  /-- The standard that introduced the value. -/
  since : Option String := none
  /-- Switches that turn the value on, and negated off. -/
  toggles : List Toggle := []
  /-- Switches that must all be passed. -/
  enabledBy : List Switch := []
  /-- Switches none of which may be passed. -/
  disabledBy : List Switch := []
  /-- A preprocessor expression over other identifiers. -/
  depends : Option String := none
  /-- Whether strict mode suppresses the value. -/
  strictSensitive : Bool := false
  /-- The standard that a defect report applied the value to. -/
  drAgainst : Option String := none
  deriving DecidableEq

namespace Fact

/-- Whether `since` leaves any standard out; naming the first one does not. -/
def sinceRestricts (fact : Fact) (ladder : Ladder) : Bool :=
  match fact.since.bind ladder.rung? with
  | some rung => (ladder.previousWatermark rung).isSome
  | none => false

/-- Whether any part of the fact restricts when it applies. -/
def hasCondition (fact : Fact) (ladder : Ladder) : Bool :=
  fact.sinceRestricts ladder || !fact.toggles.isEmpty || !fact.enabledBy.isEmpty ||
    !fact.disabledBy.isEmpty || fact.depends.isSome || fact.strictSensitive

/-- Every switch the fact names, in the order they are tried. -/
def switches (fact : Fact) : List Switch :=
  fact.toggles.map (·.enable) ++ fact.toggles.map (·.disable) ++ fact.enabledBy ++ fact.disabledBy

/-- A fact is introduced by a standard or by a defect report, and either must be on the ladder. -/
def check (fact : Fact) (ladder : Ladder) : Except Violation Unit :=
  match fact.since, fact.drAgainst with
  | some since, some drAgainst => .error (.conflictingStandards fact.value since drAgainst)
  | some name, none | none, some name => discard (ladder.require name)
  | none, none => .ok ()

end Fact

/-- The first two neighbours of which the second is smaller. -/
def firstDescent? : List Nat → Option (Nat × Nat)
  | [] => none
  | [_] => none
  | a :: b :: rest => if b < a then some (a, b) else firstDescent? (b :: rest)

/-- The facts for one identifier and implementation, ascending by value. -/
structure SupportList where
  facts : List Fact
  removed : Bool
  deriving DecidableEq

namespace SupportList

def empty : SupportList := ⟨[], false⟩

/-- Accepts facts whose values never fall and of which only the first may be unconditional: it is
the last to be tried, and an unconditional fact hides whatever comes after it. -/
def ofFacts (facts : List Fact) (removed : Bool) (ladder : Ladder) :
    Except Violation SupportList := do
  facts.forM (·.check ladder)
  match firstDescent? (facts.map (·.value)) with
  | some (previous, value) => throw (.unsortedValues previous value)
  | none => pure ()
  match facts.tail.find? (!·.hasCondition ladder) with
  | some fact => throw (.unconditionalNotLast fact.value)
  | none => pure ()
  return ⟨facts, removed⟩

/-- The order in which facts are tried. -/
def mostSpecificFirst (support : SupportList) : List Fact := support.facts.reverse

def isStrictSensitive (support : SupportList) : Bool := support.facts.any (·.strictSensitive)

end SupportList
end FeatureTest
