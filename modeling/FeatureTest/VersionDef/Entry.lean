import FeatureTest.Document
import FeatureTest.VersionDef.Definition
import FeatureTest.Yaml.Value

/-!
What version definitions say about the library: each macro with the values it may be defined to,
newest first, and the condition on each.
-/
namespace FeatureTest.VersionDef

/-- Replaces each occurrence of a word, from left to right; `skip` characters of one are left. -/
def replaceWord (old new : List Char) (skip : Nat) : List Char → List Char
  | [] => []
  | c :: cs =>
    match skip with
    | n + 1 => replaceWord old new n cs
    | 0 =>
      if old.isPrefixOf (c :: cs) then new ++ replaceWord old new (old.length - 1) cs
      else c :: replaceWord old new 0 cs

/-- A value of one macro, with what the library's configuration must be for it. -/
structure MacroValue where
  value : Nat
  /-- The number of a standard, without its `C++`. -/
  cxxmin : Option String := none
  gthread : Option Bool := none
  cxx11abi : Option Bool := none
  extraCond : Option String := none
  deriving DecidableEq, Repr

def libraryPrefix : String := "__cpp_lib_"

namespace MacroValue

/-- A further condition, over the macros' public names and without quotes. -/
def publicCondition (extra : String) : String :=
  String.ofList (replaceWord "__glibcxx_".toList libraryPrefix.toList 0
    (extra.toList.filter (· ≠ '"')))

/-- The conditions on the configuration, in a fixed order. -/
def conditions (v : MacroValue) : List String :=
  (v.gthread.map fun b =>
    if b then "defined(_GLIBCXX_HAS_GTHREADS)" else "!defined(_GLIBCXX_HAS_GTHREADS)").toList ++
  (v.cxx11abi.map fun b =>
    if b then "_GLIBCXX_USE_CXX11_ABI" else "!_GLIBCXX_USE_CXX11_ABI").toList ++
  (v.extraCond.map publicCondition).toList

def depends (v : MacroValue) : Option String :=
  if v.conditions.isEmpty then none else some (" && ".intercalate v.conditions)

/-- The value as a support entry of a registry document. -/
def supportEntry {Tag : Type} (v : MacroValue) : Yaml.Value Tag :=
  .map (
    (v.cxxmin.map fun c => (.text "since", .text ("C++" ++ c))).toList ++
    (v.depends.map fun d => (.text "depends", .text d)).toList ++
    [(.text "value", .integer v.value)])

end MacroValue

structure LibraryMacro where
  /-- The full name. -/
  name : String
  /-- In the order of the definitions, newest first. -/
  values : List MacroValue
  deriving DecidableEq, Repr

/-- The support entries in registry order, ascending by value. -/
def LibraryMacro.support {Tag : Type} (m : LibraryMacro) : List (Yaml.Value Tag) :=
  m.values.reverse.map (·.supportEntry)

inductive EntryError where
  | parse (error : ParseError)
  | noEntries
  | missingName
  | missingValue
  | invalidValue (text : String)
  | notYesOrNo (name text : String)
  deriving DecidableEq

def EntryError.message (e : EntryError) : String :=
  "invalid version.def: " ++ match e with
    | parse error => error.message
    | noEntries => "no ftms entries"
    | missingName => "ftms entry without name"
    | missingValue => "value without v"
    | invalidValue text => s!"invalid value {text}"
    | notYesOrNo name text => s!"{name} must be yes or no, not {text}"

namespace Definitions

def text? (ds : Definitions) (name : String) : Option String :=
  match ds.lookup name with
  | some (.text t) => some t
  | _ => none

def bodies (ds : Definitions) (name : String) : List Definitions :=
  match ds.lookup name with
  | some (.groups bodies) => bodies
  | _ => []

def yesOrNo (ds : Definitions) (name : String) : Except EntryError (Option Bool) :=
  match ds.text? name with
  | none => .ok none
  | some "yes" => .ok (some true)
  | some "no" => .ok (some false)
  | some other => .error (.notYesOrNo name other)

end Definitions

/-- A decimal number of 32 bits, with or without a plus sign. -/
def number? (cs : List Char) : Option Nat :=
  let digits := match cs with
    | '+' :: rest => rest
    | _ => cs
  (Scalar.numeral? 10 digits).filter (· < UInt32.size)

def MacroValue.ofDefinitions (ds : Definitions) : Except EntryError MacroValue := do
  let some raw := ds.text? "v" | throw .missingValue
  let some value := number? raw.toList | throw (.invalidValue raw)
  return {
    value
    cxxmin := ds.text? "cxxmin"
    gthread := ← ds.yesOrNo "gthread"
    cxx11abi := ← ds.yesOrNo "cxx11abi"
    extraCond := ds.text? "extra_cond" }

def LibraryMacro.ofDefinitions (ds : Definitions) : Except EntryError LibraryMacro := do
  let some name := ds.text? "name" | throw .missingName
  let values ← (ds.bodies "values").mapM MacroValue.ofDefinitions
  return ⟨libraryPrefix ++ name, values⟩

/-- Every macro that the definitions describe, of which there must be one. -/
def readMacros (text : String) : Except EntryError (List LibraryMacro) := do
  let ds ← (parse text).mapError .parse
  let entries := ds.bodies "ftms"
  if entries.isEmpty then throw .noEntries
  entries.mapM LibraryMacro.ofDefinitions

end FeatureTest.VersionDef
