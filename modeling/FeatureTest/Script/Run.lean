import FeatureTest.Compiler
import FeatureTest.Files.FileTree
import FeatureTest.Script.Printing
import FeatureTest.Script.Statement
import FeatureTest.Text.Blank
import FeatureTest.Text.Utf8

/-!
Running a script that stands in for a compiler: it sees its arguments and the files, and prints. This
takes the place of starting a process, at the very outside of the program. Commands know compilers
only as functions (`World.compile`), and no theorem is about scripts.
-/
namespace FeatureTest.Script

/-- Where what is printed ends up. -/
inductive Sink where
  | output
  | diagnostics
  | nowhere
  deriving DecidableEq, Repr

/-- Where a script goes on, if not at the next statement. -/
inductive Jump where
  | none
  /-- Behind the loop around it. -/
  | leave
  /-- At the next turn of the loop. -/
  | again
  | exit
  deriving DecidableEq, Repr

structure State where
  files : FileTree
  program : String
  arguments : List String
  bindings : List (List Char × String) := []
  sinks : List (Nat × Sink) := [(1, .output), (2, .diagnostics)]
  output : List UInt8 := []
  diagnostics : List UInt8 := []
  /-- How the last command ended; zero is success. -/
  status : Nat := 0
  jump : Jump := .none

namespace State

def emit (s : State) (descriptor : Nat) (bytes : List UInt8) : State :=
  match s.sinks.lookup descriptor with
  | some .output => { s with output := s.output ++ bytes }
  | some .diagnostics => { s with diagnostics := s.diagnostics ++ bytes }
  | _ => s

def redirect (s : State) (r : Redirection) : State :=
  let sink := match r.target with
    | .descriptor n => (s.sinks.lookup n).getD .nowhere
    | .file _ => .nowhere
  { s with sinks := (r.source, sink) :: s.sinks }

def ended (s : State) (status : Nat) : State := { s with status }

def succeedsIf (s : State) (condition : Bool) : State := s.ended (if condition then 0 else 1)

/-! ### Words -/

/-- A parameter's value. The arguments as such are one text here. -/
def value? (s : State) (name : List Char) : Option String :=
  match name with
  | ['@'] | ['*'] => if s.arguments.isEmpty then none else some (" ".intercalate s.arguments)
  | ['#'] => some (toString s.arguments.length)
  | ['?'] => some (toString s.status)
  | ['$'] => some "1"
  | _ => match Scalar.numeral? 10 name with
    | some n => (s.program :: s.arguments)[n]?
    | none => s.bindings.lookup name

/-- Continues the last of some fields by the first of some more. -/
def append (fields : List String) (more : List String) : List String :=
  match more, fields.getLast? with
  | [], _ => fields
  | first :: rest, some last => fields.dropLast ++ (last ++ first) :: rest
  | _, none => more

/-- The fields that a word expands to; none if it is nothing but parameters without a value. -/
def fields (s : State) (w : Word) : List String :=
  w.foldl (fun fields piece =>
    append fields (match piece with
      | .text t _ => [String.ofList t]
      | .parameter ['@'] [] true => s.arguments
      | .parameter ['@'] [] false => s.arguments.flatMap Text.words
      | .parameter name modifier quoted =>
        let text := modified modifier (s.value? name)
        if quoted then [text] else Text.words text)) []

/-- The text of a word that is not split. -/
def text (s : State) (w : Word) : String :=
  String.join (w.map fun
    | .text t _ => String.ofList t
    | .parameter name modifier _ => modified modifier (s.value? name))

def pattern (s : State) (w : Word) : List Mark :=
  w.flatMap fun
    | .text t true => t.map .char
    | .text t false => marksOf t
    | .parameter name modifier quoted =>
      let cs := (modified modifier (s.value? name)).toList
      if quoted then cs.map .char else marksOf cs

def bind (s : State) (name : List Char) (value : String) : State :=
  { s with bindings := (name, value) :: s.bindings }

/-! ### Commands -/

def printFile (s : State) (path : String) : State :=
  if path = "/dev/null" ∨ path = "-" then s
  else match s.files.read path with
    | .ok content => s.emit 1 content.toList
    | .error error =>
      let reason := (error.message.splitOn " (os error").headD ""
      (s.emit 2 (bytesOf s!"cat: {path}: {reason}\n".toList)).ended 1

/-- Whether a condition holds, or nothing if it is malformed. -/
def holds? (s : State) (words : List String) : Option Bool :=
  let number (text : String) : Option Nat := Scalar.numeral? 10 text.toList
  match words with
  | [] => some false
  | [text] => some (!text.isEmpty)
  | ["!", text] => some text.isEmpty
  | ["-n", text] => some (!text.isEmpty)
  | ["-z", text] => some text.isEmpty
  | ["-f", path] => some (s.files.isFile path)
  | ["-e", path] | ["-r", path] => some ((s.files.read path).toBool || s.files.isFile path)
  | [a, "=", b] => some (a == b)
  | [a, "!=", b] => some (a != b)
  | [a, comparison, b] => do
    let (m, n) := (← number a, ← number b)
    match comparison with
    | "-eq" => return m == n
    | "-ne" => return m != n
    | "-lt" => return m < n
    | "-le" => return m ≤ n
    | "-gt" => return m > n
    | "-ge" => return m ≥ n
    | _ => none
  | "!" :: rest => (s.holds? rest).map (!·)
  | _ => none

def test (s : State) (words : List String) : State :=
  match s.holds? words with
  | some b => s.succeedsIf b
  | none => s.ended 2

/-- Runs a command by name. -/
def call (s : State) (line : Nat) (name : String) (arguments : List String) : State :=
  let done := s.ended 0
  match name with
  | "echo" => done.emit 1 (echoed arguments)
  | "printf" =>
    let arguments := if arguments.head? == some "--" then arguments.tail else arguments
    done.emit 1 (printed (arguments.headD "").toList arguments.tail (arguments.length + 1))
  | "cat" => arguments.foldl printFile done
  | ":" | "true" | "set" | "export" | "unset" | "sleep" => done
  | "false" => s.ended 1
  | "test" => s.test arguments
  | "[" => if arguments.getLast? = some "]" then s.test arguments.dropLast else s.ended 2
  | "shift" => { done with arguments := s.arguments.tail }
  | "break" => { done with jump := .leave }
  | "continue" => { done with jump := .again }
  | "exit" | "return" | "kill" => { s with jump := .exit }
  | _ => (s.emit 2 (bytesOf s!"{s.program}: {line}: {name}: not found\n".toList)).ended 127

end State

mutual

/-- Runs a statement. `fuel` bounds how deep statements lie in each other and how often loops turn. -/
def Statement.run (statement : Statement) (s : State) : Nat → State
  | 0 => { s with jump := .exit }
  | fuel + 1 =>
    match statement with
    | .simple line assignments ws =>
      match ws.flatMap s.fields with
      | [] => assignments.foldl (fun s (name, w) => s.bind name (s.text w)) (s.ended 0)
      | "exec" :: name :: arguments => { s.call line name arguments with jump := .exit }
      | name :: arguments => s.call line name arguments
    | .redirected statement rs =>
      { statement.run (rs.foldl State.redirect s) fuel with sinks := s.sinks }
    | .group own body =>
      let t := runAll body s fuel
      if own then
        { s with output := t.output, diagnostics := t.diagnostics, status := t.status }
      else t
    | .each name ws body =>
      let items := match ws with
        | some ws => ws.flatMap s.fields
        | none => s.arguments
      runEach name items body (s.ended 0) fuel
    | .choose w arms => runArm (s.text w).toList arms s fuel
    | .branch condition body otherwise =>
      let t := runAll condition s fuel
      if t.jump ≠ .none then t
      else if t.status = 0 then runAll body t fuel
      else runAll otherwise (t.ended 0) fuel
    | .loop holds condition body => runLoop holds condition body s fuel
    | .not statement =>
      let t := statement.run s fuel
      t.succeedsIf (t.status ≠ 0)
    | .next succeeded first second =>
      let t := first.run s fuel
      if t.jump ≠ .none then t
      else if (t.status = 0) = succeeded then second.run t fuel
      else t

def runAll (statements : List Statement) (s : State) : Nat → State
  | 0 => { s with jump := .exit }
  | fuel + 1 =>
    match statements with
    | [] => s
    | statement :: rest =>
      let t := statement.run s fuel
      if t.jump = .none then runAll rest t fuel else t

def runEach (name : List Char) (items : List String) (body : List Statement) (s : State) :
    Nat → State
  | 0 => { s with jump := .exit }
  | fuel + 1 =>
    match items with
    | [] => s
    | item :: items =>
      let t := runAll body (s.bind name item) fuel
      match t.jump with
      | .exit => t
      | .leave => { t with jump := .none }
      | .none | .again => runEach name items body { t with jump := .none } fuel

def runLoop (holds : Bool) (condition body : List Statement) (s : State) : Nat → State
  | 0 => { s with jump := .exit }
  | fuel + 1 =>
    let t := runAll condition s fuel
    if t.jump ≠ .none then t
    else if (t.status = 0) ≠ holds then s
    else
      let t := runAll body t fuel
      match t.jump with
      | .exit => t
      | .leave => { t with jump := .none }
      | .none | .again => runLoop holds condition body { t with jump := .none } fuel

def runArm (text : List Char) (arms : List (List Word × List Statement)) (s : State) :
    Nat → State
  | 0 => { s with jump := .exit }
  | fuel + 1 =>
    match arms with
    | [] => s.ended 0
    | (patterns, body) :: arms =>
      if patterns.any fun p => isMatch (s.pattern p) text then runAll body (s.ended 0) fuel
      else runArm text arms s fuel

end

/-- Whether a script's first line names a shell. -/
def isShellScript (text : String) : Bool :=
  match (text.toList.splitOn '\n').head? with
  | some line =>
    let words := Text.words (String.ofList (line.drop 2))
    let isShell (w : String) : Bool := w.endsWith "/sh" || w.endsWith "bash" || w == "sh"
    line.take 2 == ['#', '!'] && words.any isShell
  | none => false

def runText (files : FileTree) (text program : String) (arguments : List String) : CompilerOutput :=
  let s : State := { files, program, arguments }
  let s := match statements? text with
    | some ss => runAll ss s 10000
    | none => s.emit 2 (bytesOf s!"{program}: Syntax error\n".toList)
  ⟨Text.decode s.output, Text.decode s.diagnostics⟩

/-- What a program prints that is found without a path, if it is. -/
def installed? (program : String) (arguments : List String) : Option String :=
  match program with
  | "true" | "false" => some ""
  | "echo" =>
    let isOption (a : String) : Bool :=
      match a.toList with
      | '-' :: c :: cs => (c :: cs).all ['n', 'e', 'E'].contains
      | _ => false
    let newline := if (arguments.takeWhile isOption).any (·.toList.contains 'n') then "" else "\n"
    some (" ".intercalate (arguments.dropWhile isOption) ++ newline)
  | _ => none

/-- Runs a command whose program is a script among the files, or one that is installed. -/
def compile (files : FileTree) (command : List String) : Except FileError CompilerOutput := do
  if command.any (·.toList.contains '\x00') then throw .nulInArgument
  match command with
  | [] => throw .notFound
  | program :: arguments =>
    if !program.toList.contains '/' then
      match installed? program arguments with
      | some output => return ⟨output, ""⟩
      | none => throw .notFound
    else
      match files.node? (← files.locate program) with
      | none => throw .notFound
      | some .directory | some (.file _ false) => throw .permissionDenied
      | some (.file content true) =>
        match (String.fromUTF8? content).filter isShellScript with
        | some text => return runText files text program arguments
        | none => throw .notExecutable

end FeatureTest.Script
