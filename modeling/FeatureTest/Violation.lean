/-!
What can be wrong with recorded data. A violation means that the data has no well-formed reading,
so nothing downstream guesses at one.
-/
namespace FeatureTest

/-- Why a list of standards is no ladder. -/
inductive LadderFault where
  | empty
  | boundedFinal (name : String)
  | missingWatermark (name : String)
  | notIncreasing (name previous : String)
  | duplicate (name : String)
  deriving DecidableEq, Repr

/-- Why a spelling is no compiler switch, or no switch that can be turned off. -/
inductive SwitchFault where
  | notIdentifier (identifier : String)
  | alreadyNegated
  | notNegatable
  deriving DecidableEq, Repr

inductive Violation where
  | invalidLadder (fault : LadderFault)
  | unknownStandard (name : String)
  | invalidOption (spelling : String) (fault : SwitchFault)
  | conflictingStandards (value : Nat) (since drAgainst : String)
  | pedanticEnabled (value : Nat)
  | unsortedValues (previous value : Nat)
  | unconditionalNotLast (value : Nat)
  | misplacedRemoval
  | missingValue (index : Nat)
  deriving DecidableEq, Repr

def LadderFault.message : LadderFault → String
  | empty => "ladder is empty"
  | boundedFinal name => s!"final standard {name} must not have a watermark"
  | missingWatermark name => s!"only the final standard may omit its watermark, not {name}"
  | notIncreasing name previous => s!"watermark of {name} does not exceed {previous}"
  | duplicate name => s!"duplicate standard {name}"

def SwitchFault.message : SwitchFault → String
  | notIdentifier identifier => s!"{identifier} is not a valid identifier"
  | alreadyNegated => "already negated"
  | notNegatable => "expected `-f…` or `/…`"

def Violation.message : Violation → String
  | invalidLadder fault => "invalid standard ladder: " ++ fault.message
  | unknownStandard name => s!"unknown standard: {name}"
  | invalidOption spelling fault => s!"invalid option {spelling}: " ++ fault.message
  | conflictingStandards value since drAgainst =>
    s!"value {value} names both `since` ({since}) and a defect report against {drAgainst}"
  | pedanticEnabled value => s!"value {value}: `pedantic` may only be false"
  | unsortedValues previous value => s!"values out of order: {value} follows {previous}"
  | unconditionalNotLast value => s!"unconditional value {value} is not the lowest-priority entry"
  | misplacedRemoval => "removal marker must be the last entry"
  | missingValue index => s!"entry {index} has no value"

end FeatureTest
