import FeatureTest.Condition
import FeatureTest.Feature

/-!
The compiler options that a generated test must be run under, and the switches that select a
standard.
-/
namespace FeatureTest

abbrev OptionSet := List String

namespace OptionSet

/-- Inserts into a strictly increasing list, unless the set is there already. -/
def insert (s : OptionSet) : List OptionSet → List OptionSet
  | [] => [s]
  | t :: rest => if s < t then s :: t :: rest else if s = t then t :: rest else t :: insert s rest

/-- The members of a list, each once and in lexicographic order. -/
def sorted (sets : List OptionSet) : List OptionSet := sets.foldr insert []

end OptionSet

def pedanticSwitch : String := "-pedantic"

namespace SupportList

/-- No switches at all, then each switch alone with the macro that announces it. -/
def optionSets (support : SupportList) : List OptionSet :=
  [] :: (support.facts.flatMap (·.switches)).map fun s => [s.spelling, s.define]

/-- Strict mode and its absence, where some fact reacts to it. -/
def strictVariants (support : SupportList) : Option (String × String) :=
  if support.isStrictSensitive then some (pedanticSwitch, s!"-D{nonPedanticMacro}=1") else none

end SupportList

namespace Registry

/-- Every option set that a whole test file needs, sorted. When a feature reacts to strict mode,
every set runs in it, and once the macro that announces its absence is passed alone. -/
def optionSets (registry : Registry) (kind : Kind) (implementation : Implementation) :
    List OptionSet :=
  let supports := (registry.active kind implementation).map (·.supportFor implementation)
  let sets := [] :: supports.flatMap (·.optionSets)
  match supports.findSome? (·.strictVariants) with
  | none => OptionSet.sorted sets
  | some (strict, lenient) =>
    OptionSet.sorted (sets.map (pedanticSwitch :: ·) ++ [[strict], [lenient]])

end Registry

namespace Ladder

/-- The standards that take an msvc switch, from C++14 on: all published ones, the newest of them
as `latest`. A ladder without C++14 starts at its first standard. -/
def msvcSwitches (ladder : Ladder) : List (Standard × String) :=
  let first := match ladder.rung? "C++14" with
    | some rung => rung.val
    | none => 0
  let newest := ladder.published.length - 1
  ((ladder.published.zipIdx).drop first).map fun (revision, index) =>
    let standard : Standard := ⟨revision.name, some revision.watermark⟩
    (standard, if index = newest then "-std:c++latest" else "-std:" ++ standard.switchName)

/-- The standards an implementation can select, each with its switch. -/
def standardSwitches (ladder : Ladder) : Implementation → List (Standard × String)
  | .clang | .gcc => ladder.standards.map fun s => (s, "-std=" ++ s.switchName)
  | .msvc => ladder.msvcSwitches

end Ladder
end FeatureTest
