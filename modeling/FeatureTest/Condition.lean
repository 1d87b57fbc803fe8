import FeatureTest.Fact

/-!
Conditions: conjunctions of preprocessor tests, and the condition that selects one fact.
-/
namespace FeatureTest

/-- One preprocessor test. -/
inductive Conjunct where
  /-- `__cplusplus` lies past a watermark. -/
  | past (watermark : Nat)
  | allPassed (switches : List Switch)
  | nonePassed (switches : List Switch)
  | anyPassed (switches : List Switch)
  | nonPedantic
  /-- An expression over other identifiers, as it is written. -/
  | expression (text : String)
  deriving DecidableEq

/-- The macro that a run defines when strict mode is off. -/
def nonPedanticMacro : String := "NO_pedantic"

namespace Conjunct

def text : Conjunct → String
  | past watermark => s!"__cplusplus > {watermark}"
  | allPassed switches => " && ".intercalate (switches.map (·.identifier))
  | nonePassed switches => " && ".intercalate (switches.map ("!" ++ ·.identifier))
  | anyPassed switches => "(" ++ " || ".intercalate (switches.map (·.identifier)) ++ ")"
  | nonPedantic => nonPedanticMacro
  | expression text => text

end Conjunct

/-- What a preprocessor knows when it reads a test. -/
structure Environment where
  /-- The value of `__cplusplus`. -/
  cplusplus : Nat
  /-- Whether a presence macro is defined. -/
  defined : String → Bool
  /-- Whether an expression over other identifiers is true. -/
  truth : String → Bool
  strict : Bool

def Conjunct.holds (env : Environment) : Conjunct → Bool
  | past watermark => watermark < env.cplusplus
  | allPassed switches => switches.all (env.defined ·.identifier)
  | nonePassed switches => switches.all (!env.defined ·.identifier)
  | anyPassed switches => switches.any (env.defined ·.identifier)
  | nonPedantic => !env.strict
  | expression text => env.truth text

/-- Tests that must all hold; none at all always does. -/
structure Condition where
  conjuncts : List Conjunct
  deriving DecidableEq

namespace Condition

def always : Condition := ⟨[]⟩

def isAlways (condition : Condition) : Bool := condition.conjuncts.isEmpty

/-- The condition with one more test at its end. -/
def and (condition : Condition) (conjunct : Conjunct) : Condition :=
  ⟨condition.conjuncts ++ [conjunct]⟩

def text (condition : Condition) : String :=
  if condition.isAlways then "1" else " && ".intercalate (condition.conjuncts.map (·.text))

end Condition

/-- What can go wrong when tests are generated. -/
inductive GenerationError where
  | violation (violation : Violation)
  | emptyToggle
  | unreachableFacts (value remaining : Nat)
  | unbalancedBlocks (depth : Nat)
  | unopenedBlock
  | inFeature (feature : String) (source : GenerationError)
  deriving DecidableEq

namespace GenerationError

def message : GenerationError → String
  | violation v => v.message
  | emptyToggle => "option split requested for a value without option tokens"
  | unreachableFacts value remaining =>
    s!"unconditional value {value} shadows {remaining} lower-priority value(s)"
  | unbalancedBlocks depth => s!"unbalanced conditional blocks (depth {depth} at end of feature)"
  | unopenedBlock => "block terminator without an open block"
  | inFeature feature source => s!"{feature}: " ++ source.message

/-- Names the feature an error arose in, once. -/
def within (error : GenerationError) (feature : String) : GenerationError :=
  match error with
  | inFeature _ _ => error
  | _ => inFeature feature error

end GenerationError

/-- The two ways a toggled value can be asked for. -/
structure ToggleTests where
  enabled : Conjunct
  disabled : Conjunct
  deriving DecidableEq

def ToggleTests.ofToggles (toggles : List Toggle) : Except GenerationError ToggleTests :=
  if toggles.isEmpty then .error .emptyToggle
  else .ok ⟨.anyPassed (toggles.map (·.enable)), .anyPassed (toggles.map (·.disable))⟩

/-- A fact's guard: what must hold in any case, and how the value is toggled. -/
structure GuardedValue where
  value : Nat
  condition : Condition
  toggle : Option ToggleTests
  deriving DecidableEq

def GuardedValue.isUnconditional (guarded : GuardedValue) : Bool :=
  guarded.condition.isAlways && guarded.toggle.isNone

namespace Fact

/-- The test that the standard in use is at least `since`; none for the first standard. -/
def sinceTests (fact : Fact) (ladder : Ladder) : Except Violation (List Conjunct) :=
  match fact.since with
  | none => .ok []
  | some name => do
    let rung ← ladder.require name
    return ((ladder.previousWatermark rung).map Conjunct.past).toList

/-- The tests that do not depend on the ladder. -/
def switchTests (fact : Fact) : List Conjunct :=
  (if fact.enabledBy.isEmpty then [] else [.allPassed fact.enabledBy]) ++
  (if fact.disabledBy.isEmpty then [] else [.nonePassed fact.disabledBy]) ++
  (fact.depends.map fun e => Conjunct.expression ("(" ++ e ++ ")")).toList ++
  (if fact.strictSensitive then [.nonPedantic] else [])

/-- The condition under which the fact applies. -/
def guarded (fact : Fact) (ladder : Ladder) : Except GenerationError GuardedValue := do
  let since ← (fact.sinceTests ladder).mapError .violation
  let toggle ←
    if fact.toggles.isEmpty then pure none else some <$> ToggleTests.ofToggles fact.toggles
  return ⟨fact.value, ⟨since ++ fact.switchTests⟩, toggle⟩

end Fact
end FeatureTest
