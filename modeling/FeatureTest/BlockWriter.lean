import FeatureTest.DecisionTree
import FeatureTest.Kind

/-!
Nested preprocessor blocks, indented after the `#` by their depth.
-/
namespace FeatureTest

/-- The lines written so far and the number of blocks still open. -/
structure BlockWriter where
  kind : Kind
  depth : Nat := 0
  lines : List String := []

namespace BlockWriter

def write (w : BlockWriter) (line : String) : BlockWriter := { w with lines := w.lines ++ [line] }

/-- Each line with its line end. -/
def text (w : BlockWriter) : String := String.join (w.lines.map (· ++ "\n"))

def directive (w : BlockWriter) (depth : Nat) (text : String) : BlockWriter :=
  w.write ("#" ++ String.ofList (List.replicate depth ' ') ++ text)

def openDepth (w : BlockWriter) : Except GenerationError Nat :=
  match w.depth with
  | 0 => .error .unopenedBlock
  | n + 1 => .ok n

def startIf (w : BlockWriter) (condition : String) : BlockWriter :=
  { w.directive w.depth ("if " ++ condition) with depth := w.depth + 1 }

def startElif (w : BlockWriter) (condition : String) : Except GenerationError BlockWriter := do
  return w.directive (← w.openDepth) ("elif " ++ condition)

def startElse (w : BlockWriter) : Except GenerationError BlockWriter := do
  return w.directive (← w.openDepth) "else"

def endif (w : BlockWriter) : Except GenerationError BlockWriter := do
  let depth ← w.openDepth
  return { w.directive depth "endif" with depth }

/-- Checks that the identifier has a value. -/
def expectValue (w : BlockWriter) (name : String) (value : Nat) : BlockWriter :=
  let query := w.kind.query name
  ((w.directive w.depth s!"if {query} != {value}").directive w.depth
    s!" error {query} is not equal to {value}").directive w.depth "endif"

/-- Checks that the identifier is absent. -/
def expectAbsent (w : BlockWriter) (name : String) : BlockWriter :=
  match w.kind with
  | .attributes =>
    let query := w.kind.query name
    ((w.directive w.depth s!"if {query}").directive w.depth
      s!" error {query} is nonzero").directive w.depth "endif"
  | .language | .library =>
    ((w.directive w.depth s!"if defined({name})").directive w.depth
      s!" error {name} is defined").directive w.depth "endif"

mutual

def writeTree (name : String) (w : BlockWriter) :
    DecisionTree → Except GenerationError BlockWriter
  | .value expected => .ok (w.expectValue name expected)
  | .absent => .ok (w.expectAbsent name)
  | .branch condition body rest => do
    writeRest name (← writeTree name (w.startIf condition.text) body) rest

/-- Writes the arms after the first and closes the block. -/
def writeRest (name : String) (w : BlockWriter) :
    Alternatives → Except GenerationError BlockWriter
  | .otherwise body => do (← writeTree name (← w.startElse) body).endif
  | .arm condition body rest => do
    writeRest name (← writeTree name (← w.startElif condition.text) body) rest

end

/-- The text, unless a block is still open. -/
def finish (w : BlockWriter) : Except GenerationError String :=
  if w.depth = 0 then .ok w.text else .error (.unbalancedBlocks w.depth)

end BlockWriter

/-- The tree as one self-contained block of text. -/
def DecisionTree.render (kind : Kind) (name : String) (tree : DecisionTree) :
    Except GenerationError String := do
  (← BlockWriter.writeTree name { kind } tree).finish

end FeatureTest
