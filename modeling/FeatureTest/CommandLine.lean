import FeatureTest.Kind
import FeatureTest.Log.Line

/-!
The command line: which words ask for what, and which are refused.
-/
namespace FeatureTest

inductive Verb where
  | generate
  | table
  | check
  | lint
  | importLibrary
  | standards
  deriving DecidableEq, Repr

inductive Flag where
  | data
  | config
  | verbose
  | quiet
  | color
  | logLevel
  | logFormat
  | logFile
  | testDir
  | output
  | disableWarning
  | cc
  | dryRun
  | showCommands
  | json
  deriving DecidableEq, Repr

namespace Flag

/-- The flags that go with every verb, and may also stand before it. -/
def shared : List Flag :=
  [data, config, verbose, quiet, color, logLevel, logFormat, logFile]

def long : Flag → String
  | data => "data"
  | config => "config"
  | verbose => "verbose"
  | quiet => "quiet"
  | color => "color"
  | logLevel => "log-level"
  | logFormat => "log-format"
  | logFile => "log-file"
  | testDir => "test-dir"
  | output => "output"
  | disableWarning => "disable-warning"
  | cc => "cc"
  | dryRun => "dry-run"
  | showCommands => "show-commands"
  | json => "json"

def short? : Flag → Option Char
  | verbose => some 'v'
  | quiet => some 'q'
  | output => some 'o'
  | dryRun => some 'n'
  | _ => none

def takesValue : Flag → Bool
  | verbose | quiet | disableWarning | dryRun | showCommands | json => false
  | _ => true

/-- Whether giving the flag again counts. -/
def isCounted : Flag → Bool
  | verbose | quiet => true
  | _ => false

/-- What may follow a flag: one of some words, any text, or a path, which is never empty. -/
def accepts (flag : Flag) (value : String) : Bool :=
  match flag with
  | color => ["auto", "always", "never"].contains value
  | logLevel => (Log.Level.all.map (·.name)).contains value
  | logFormat => ["pretty", "compact", "json"].contains value
  | data | config | logFile | testDir | output => !value.isEmpty
  | _ => true

end Flag

namespace Verb

def all : List Verb := [generate, table, check, lint, importLibrary, standards]

def name : Verb → String
  | generate => "generate"
  | table => "table"
  | check => "check"
  | lint => "lint"
  | importLibrary => "import-glibcxx"
  | standards => "standards"

def flags : Verb → List Flag
  | generate => .testDir :: Flag.shared
  | table => [.output, .disableWarning] ++ Flag.shared
  | check => [.cc, .dryRun, .showCommands, .testDir] ++ Flag.shared
  | lint => .json :: Flag.shared
  | importLibrary | standards => Flag.shared

/-- What each further word must be. -/
def operands : Verb → List (String → Bool)
  | table => [fun w => (Kind.ofName? w).isSome]
  | check => [fun w => (Implementation.ofName? w).isSome, fun w => (Kind.ofName? w).isSome]
  | importLibrary => [(!·.isEmpty), (!·.isEmpty)]
  | generate | lint | standards => []

/-- Whether what follows a bare `--` is kept for a compiler. -/
def keepsRest : Verb → Bool
  | check => true
  | _ => false

end Verb

/-- Why a command line is not run. -/
inductive Unrun where
  | misuse
  | help
  | version
  deriving DecidableEq, Repr

/-- What was given before the verb, or after it. -/
structure Given where
  flags : List (Flag × String) := []
  operands : List String := []
  rest : List String := []
  deriving DecidableEq, Repr

namespace Given

def has (given : Given) (flag : Flag) : Bool := given.flags.any (·.1 == flag)

def add (given : Given) (flag : Flag) (value : String) : Except Unrun Given :=
  if (given.has flag && !flag.isCounted) || !flag.accepts value then .error .misuse
  else .ok { given with flags := given.flags ++ [(flag, value)] }

def addOperand (verb : Verb) (given : Given) (word : String) : Except Unrun Given :=
  match verb.operands[given.operands.length]? with
  | some accepts =>
    if accepts word then .ok { given with operands := given.operands ++ [word] }
    else .error .misuse
  | none => .error .misuse

/-- Whether all that must be there is there, and nothing that excludes it. -/
def isComplete (verb : Verb) (given : Given) : Bool :=
  given.operands.length == verb.operands.length

def isConsistent (given : Given) : Bool := !(given.has .verbose && given.has .quiet)

end Given

namespace CommandLine

def flagsOf : Option Verb → List Flag
  | some verb => verb.flags
  | none => Flag.shared

/-- The flags in one word after a single dash. The last may be one that takes a value, which is the
rest of the word or else the next word. -/
def readShort (verb : Option Verb) (given : Given) :
    List Char → Except Unrun (Given × Option Flag)
  | [] => .ok (given, none)
  | c :: cs =>
    match (flagsOf verb).find? (·.short? == some c) with
    | some flag =>
      if flag.takesValue then
        match cs with
        | [] => .ok (given, some flag)
        | '=' :: value => do return (← given.add flag (String.ofList value), none)
        | value => do return (← given.add flag (String.ofList value), none)
      else do readShort verb (← given.add flag "") cs
    | none => .error (
        if c = 'h' then .help else if c = 'V' ∧ verb.isNone then .version else .misuse)

/-- The flag in a word after two dashes, with its value or without. -/
def readLong (verb : Option Verb) (given : Given) (cs : List Char) :
    Except Unrun (Given × Option Flag) :=
  let name := String.ofList (cs.takeWhile (· ≠ '='))
  let value := match cs.dropWhile (· ≠ '=') with
    | _ :: v => some (String.ofList v)
    | [] => none
  match (flagsOf verb).find? (·.long == name), value with
  | some flag, some v => do
    if flag.takesValue then return (← given.add flag v, none) else throw .misuse
  | some flag, none => do
    if flag.takesValue then return (given, some flag) else return (← given.add flag "", none)
  | none, some _ => .error .misuse
  | none, none => .error (
      if name = "help" then .help else if name = "version" ∧ verb.isNone then .version
      else .misuse)

/-- Whether a word stands for flags. -/
def isFlagWord (cs : List Char) : Bool := cs.head? == some '-' && 1 < cs.length

/-- Reads words up to the verb, or after it to the end; `pending` still takes a value. -/
def scan (verb : Option Verb) (pending : Option Flag) (given : Given) :
    List String → Except Unrun (Given × Option (Verb × List String))
  | [] => if pending.isSome then .error .misuse else .ok (given, none)
  | word :: words =>
    match pending with
    | some flag => do
      if isFlagWord word.toList then throw .misuse
      scan verb none (← given.add flag word) words
    | none =>
      match word.toList, verb with
      | ['-', '-'], none => .error .misuse
      | ['-', '-'], some verb => do
        if verb.keepsRest then return ({ given with rest := words }, none)
        return (← words.foldlM (Given.addOperand verb) given, none)
      | '-' :: '-' :: cs, _ => do
        let (given, pending) ← readLong verb given cs
        scan verb pending given words
      | '-' :: c :: cs, _ => do
        let (given, pending) ← readShort verb given (c :: cs)
        scan verb pending given words
      | _, some v => do scan verb none (← given.addOperand v word) words
      | _, none => match Verb.all.find? (·.name == word) with
        | some v => .ok (given, some (v, words))
        | none => .error .misuse

/-- Reads the words of a command: what stands before the verb, the verb, and what follows it. -/
def read (words : List String) : Except Unrun (Given × Verb × Given) := do
  match ← scan none none {} words with
  | (_, none) => throw .misuse
  | (before, some (verb, words)) =>
    let (after, _) ← scan (some verb) none {} words
    if !before.isConsistent || !after.isConsistent || !after.isComplete verb then throw .misuse
    return (before, verb, after)

end CommandLine

/-- What is to be done. -/
inductive Action where
  | generate (testDir : Option String)
  | table (kind : Kind) (output : Option String) (hideWarnings : Bool)
  | check (implementation : Implementation) (kind : Kind) (cc testDir : Option String)
      (dryRun showCommands : Bool) (extraArgs : List String)
  | lint (json : Bool)
  | importLibrary (definitions output : String)
  | standards

structure LogOptions where
  verbose : Nat
  quiet : Nat
  level : Option Log.Level
  format : Log.Format
  file : Option String
  /-- None leaves it to where the lines go. -/
  colored : Option Bool

structure Invocation where
  action : Action
  data : Option String
  config : Option String
  log : LogOptions

namespace Invocation

/-- The values of a flag. What stands after the verb counts before what stands before it. -/
def valuesOf (before after : Given) (flag : Flag) : List String :=
  let values (given : Given) := (given.flags.filter (·.1 == flag)).map (·.2)
  if after.has flag then values after else values before

def logOptions (before after : Given) : LogOptions where
  verbose := min 255 (valuesOf before after .verbose).length
  quiet := min 255 (valuesOf before after .quiet).length
  level := (valuesOf before after .logLevel).head?.bind fun v => Log.Level.all.find? (·.name == v)
  format := match (valuesOf before after .logFormat).head? with
    | some "compact" => .compact
    | some "json" => .json
    | _ => .full
  file := (valuesOf before after .logFile).head?
  colored := match (valuesOf before after .color).head? with
    | some "always" => some true
    | some "never" => some false
    | _ => none

def actionOf? (verb : Verb) (given : Given) : Option Action :=
  let value (flag : Flag) : Option String := (valuesOf {} given flag).head?
  match verb, given.operands with
  | .generate, _ => some (.generate (value .testDir))
  | .table, [kind] => do
    return .table (← Kind.ofName? kind) (value .output) (given.has .disableWarning)
  | .check, [implementation, kind] => do
    return .check (← Implementation.ofName? implementation) (← Kind.ofName? kind) (value .cc)
      (value .testDir) (given.has .dryRun) (given.has .showCommands) given.rest
  | .lint, _ => some (.lint (given.has .json))
  | .importLibrary, [definitions, output] => some (.importLibrary definitions output)
  | .standards, _ => some .standards
  | _, _ => none

def ofWords (words : List String) : Except Unrun Invocation := do
  let (before, verb, after) ← CommandLine.read words
  match actionOf? verb after with
  | none => throw .misuse
  | some action => return {
      action
      data := (valuesOf before after .data).head?
      config := (valuesOf before after .config).head?
      log := logOptions before after }

end Invocation

namespace LogOptions

/-- A chosen level, or the usual one moved by how often more or less output was asked for. -/
def threshold (options : LogOptions) : Log.Threshold :=
  match options.level with
  | some level => some level
  | none =>
    let rank := Log.Level.warn.rank + options.verbose - options.quiet
    if rank = 0 then none
    else some ((Log.Level.all.find? (·.rank == rank)).getD .trace)

/-- The logger that the options ask for. The environment's filter counts only where they choose no
level, and only if it can be read. -/
def logger (options : LogOptions) (environment : Option String) (onTerminal : Bool) :
    Log.Logger where
  filter :=
    let chosen := options.level.isSome || 0 < options.verbose || 0 < options.quiet
    ((if chosen then none else environment).bind Log.Filter.ofText?).getD
      (.ofThreshold options.threshold)
  format := options.format
  colored := options.colored.getD (options.file.isNone && onTerminal)
  file := options.file

end LogOptions
end FeatureTest
