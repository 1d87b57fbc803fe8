import FeatureTest.Toml.Scalar

/-!
TOML documents.
-/
namespace FeatureTest.Toml

namespace Read

mutual

def value : Nat → Read Value
  | 0 => fail
  | fuel + 1 => do
    match ← peek with
    | some '[' =>
      skip 1
      return .list (← items fuel)
    | some '\x7b' =>
      skip 1
      spaces
      if ← passes ['\x7d'] then return .table .inline []
      else return .table .inline (← members [] fuel)
    | some c => if isQuote c then return .text (← string c (fuel + 1)) else bare
    | none => fail

/-- The rest of a list. Line breaks and a comma after the last item are free. -/
def items : Nat → Read (List Value)
  | 0 => fail
  | fuel + 1 => do
    blanks (fuel + 1)
    if ← passes [']'] then return []
    let item ← value fuel
    blanks (fuel + 1)
    if ← passes [','] then return item :: (← items fuel)
    expect [']']
    return [item]

/-- The rest of a table that is written on one line. -/
def members (entries : Entries) : Nat → Read Entries
  | 0 => fail
  | fuel + 1 => do
    let (path, v) ← assignment fuel
    let entries ← Entries.insertAt path v entries
    spaces
    if ← passes [','] then members entries fuel
    else
      expect ['\x7d']
      return entries

/-- A dotted key and its value. -/
def assignment : Nat → Read (List String × Value)
  | 0 => fail
  | fuel + 1 => do
    let path ← dottedKey (fuel + 1)
    expect ['=']
    spaces
    return (path, ← value fuel)

end

/-- A header between its brackets. -/
def header (opening closing : List Char) (fuel : Nat) : Read (List String) := do
  expect opening
  let path ← dottedKey fuel
  expect closing
  return path

/-- The lines of a document, which go into the table that the last header named. -/
def lines (table : List String) (entries : Entries) : Nat → Read Entries
  | 0 => fail
  | fuel + 1 => do
    blanks (fuel + 1)
    if (← get).isEmpty then return entries
    match ← get with
    | '[' :: rest =>
      let isNext := rest.head? == some '['
      let path ← if isNext then header ['[', '['] [']', ']'] fuel else header ['['] [']'] fuel
      lineEnd
      let some key := path.getLast? | fail
      let opened := if isNext then Entries.openNext key else Entries.openTable key
      lines path (← (Entries.inside opened path.dropLast entries)) fuel
    | _ =>
      let (path, v) ← assignment fuel
      lineEnd
      lines table (← (Entries.inside (Entries.insertAt path v) table entries)) fuel

end Read

/-- Reads a document as its outermost table. -/
def read? (text : String) : Option Entries :=
  let cs := match text.toList with
    | '\uFEFF' :: rest => rest
    | cs => cs
  ((Read.lines [] [] (2 * cs.length + 2)).run cs).map (·.1)

end FeatureTest.Toml
