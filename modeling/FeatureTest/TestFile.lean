import FeatureTest.BlockWriter
import FeatureTest.OptionSet

/-!
Generated test files: one for each kind and implementation, and one for each feature alone.
-/
namespace FeatureTest

/-- Precedes library tests. The fallbacks keep vendor builtins well-formed on every compiler. -/
def libraryPrologue : String :=
"#include <version>

#ifndef __is_identifier
# define __is_identifier(x) 1
#endif
#ifndef __has_builtin
# define __has_builtin(x) 0
#endif
#ifndef __has_keyword
# define __has_keyword(x) 0
#endif
"

def Kind.prologue : Kind → String
  | .library => libraryPrologue
  | .attributes | .language => ""

namespace Feature

/-- What an implementation must make of the identifier. -/
def decisionTree (feature : Feature) (implementation : Implementation) (ladder : Ladder) :
    Except GenerationError DecisionTree :=
  DecisionTree.ofFacts ladder (feature.supportFor implementation).mostSpecificFirst

/-- The feature's assertions under a comment that names it. -/
def block (feature : Feature) (implementation : Implementation) (ladder : Ladder) :
    Except GenerationError String := do
  match (feature.decisionTree implementation ladder).bind (·.render feature.kind feature.name) with
  | .ok body => return s!"\n// {feature.name}\n" ++ body
  | .error e => throw (e.within feature.name)

end Feature

namespace Registry

/-- Names the options to run under, unless there is nothing but the empty set. -/
def optionHeader (sets : List OptionSet) : String :=
  if sets.length > 1 ∨ sets.any (!·.isEmpty) then
    "// Run with options:\n" ++
      String.join (sets.map fun set => "//    " ++ " ".intercalate set ++ "\n")
  else ""

/-- The test file of one kind and implementation. -/
def testFile (registry : Registry) (kind : Kind) (implementation : Implementation)
    (ladder : Ladder) : Except GenerationError String := do
  let blocks ← (registry.active kind implementation).mapM (·.block implementation ladder)
  return optionHeader (registry.optionSets kind implementation) ++ kind.prologue ++
    String.join blocks

end Registry

/-- One feature's test and the option lists it is preprocessed under. -/
structure FeatureTestFile where
  name : String
  /-- What the line that shows the identifier's value starts with. -/
  probe : String
  source : String
  invocations : List OptionSet

namespace Feature

/-- Every standard with every option set, in both modes where strict mode matters. -/
def invocations (feature : Feature) (implementation : Implementation) (ladder : Ladder) :
    List OptionSet :=
  let support := feature.supportFor implementation
  let modes : List OptionSet := match support.strictVariants with
    | some (strict, lenient) => [[strict], [lenient]]
    | none => [[]]
  (ladder.standardSwitches implementation).flatMap fun (_, standard) =>
    support.optionSets.flatMap fun set =>
      modes.map fun mode => standard :: mode ++ set

/-- The feature's test on its own. The probe line makes the value visible in the output. -/
def testFile (feature : Feature) (implementation : Implementation) (ladder : Ladder) :
    Except GenerationError FeatureTestFile := do
  let probe := s!"\"{feature.name}\": "
  let block ← feature.block implementation ladder
  return {
    name := feature.name
    probe
    source := feature.kind.prologue ++ "\n" ++ probe ++ feature.kind.query feature.name ++ "\n" ++
      block
    invocations := feature.invocations implementation ladder }

end Feature
end FeatureTest
