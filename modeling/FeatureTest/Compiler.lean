import FeatureTest.Kind
import FeatureTest.Text.Blank

/-!
How a compiler is called, and what is read off its output.
-/
namespace FeatureTest

structure Compiler where
  program : String
  /-- Options that keep each diagnostic on one line. -/
  diagnosticArgs : List String := []
  /-- The compiler's first line of diagnostics is the name of its input. -/
  echoesFileName : Bool := false
  deriving DecidableEq, Repr

/-- What one run of a compiler printed. -/
structure CompilerOutput where
  output : String
  diagnostics : String
  deriving DecidableEq, Repr

namespace Compiler

/-- The compiler that goes by an implementation's name. -/
def ofImplementation : Implementation → Compiler
  | .clang => { program := "clang", diagnosticArgs := ["-fno-caret-diagnostics"] }
  | .gcc => { program := "gcc", diagnosticArgs := ["-fno-diagnostics-show-caret"] }
  | .msvc => {
      program := "cl", diagnosticArgs := ["-nologo", "-Zc:__cplusplus"], echoesFileName := true }

/-- A given program, run without options of its own, in place of the implementation's. -/
def resolve (implementation : Implementation) : Option String → Compiler
  | some program => { program }
  | none => ofImplementation implementation

/-- The command that preprocesses a file. -/
def commandLine (compiler : Compiler) (extraArgs options : List String) (file : String) :
    List String :=
  [compiler.program, "-E"] ++ compiler.diagnosticArgs ++ extraArgs ++ options ++ [file]

/-- What follows the first line. -/
def afterFirstLine : List Char → List Char
  | [] => []
  | c :: cs => if c = '\n' then cs else afterFirstLine cs

/-- The diagnostics without blanks around them, and without the echoed name. -/
def diagnosticText (compiler : Compiler) (diagnostics : String) : String :=
  let cs := diagnostics.toList
  String.ofList (Text.trim (if compiler.echoesFileName then afterFirstLine cs else cs))

/-- What follows from the first occurrence of a word on. -/
def fromWord? (word : List Char) : List Char → Option (List Char)
  | [] => if word.isEmpty then some [] else none
  | c :: cs => if word.isPrefixOf (c :: cs) then some (c :: cs) else fromWord? word cs

/-- The rest of the line that the probe starts in preprocessed output. -/
def probeLine? (output probe : String) : Option String :=
  (fromWord? probe.toList output.toList).map fun cs =>
    String.ofList (cs.takeWhile (· ≠ '\n'))

/-- A command as it is shown. -/
def display (command : List String) : String := "+ " ++ " ".intercalate command

end Compiler
end FeatureTest
