/-!
TOML values and the tables that a document builds up, line by line.
-/
namespace FeatureTest.Toml

/-- How a table came to be, which decides what may still be added to it. -/
inductive Origin where
  /-- Named by a header of something inside it. -/
  | implied
  /-- Named by a dotted key of something inside it. -/
  | dotted
  /-- Named by a header of its own. -/
  | header
  /-- Written as one value. -/
  | inline
  deriving DecidableEq, Repr

/-- Whether dotted keys may add to a table. -/
def Origin.allowsDotted : Origin → Bool
  | .implied | .dotted => true
  | .header | .inline => false

inductive Value where
  | text (text : String)
  | integer (value : Int)
  | bool (value : Bool)
  /-- A float, a date or a time. -/
  | other
  | list (items : List Value)
  | table (origin : Origin) (entries : List (String × Value))
  /-- Tables that were added one by one under the same header. -/
  | tables (items : List (List (String × Value)))

abbrev Entries := List (String × Value)

namespace Entries

/-- Changes what a key holds, or fails. A new key goes last. -/
def alter (key : String) (change : Option Value → Option Value) : Entries → Option Entries
  | [] => do return [(key, ← change none)]
  | (k, v) :: rest =>
    if k = key then do return (k, ← change (some v)) :: rest
    else do return (k, v) :: (← alter key change rest)

/-- Adds a key that must be new. -/
def insertNew (key : String) (value : Value) : Entries → Option Entries :=
  alter key fun
    | none => some value
    | some _ => none

/-- Adds a key inside the tables that the keys before it name, where no header of theirs was. -/
def insertDotted (key : String) (value : Value) : List String → Entries → Option Entries
  | [] => insertNew key value
  | table :: path => alter table fun
    | none => (insertDotted key value path []).map (.table .dotted)
    | some (.table origin entries) =>
      if origin.allowsDotted then (insertDotted key value path entries).map (.table origin) else none
    | some _ => none

/-- Adds what a dotted key names. -/
def insertAt (path : List String) (value : Value) (entries : Entries) : Option Entries := do
  insertDotted (← path.getLast?) value path.dropLast entries

/-- Changes the table that a header's path leads to: of tables under one header, the last. -/
def inside (change : Entries → Option Entries) : List String → Entries → Option Entries
  | [] => change
  | table :: path => alter table fun
    | none => (inside change path []).map (.table .implied)
    | some (.table .inline _) => none
    | some (.table origin entries) => (inside change path entries).map (.table origin)
    | some (.tables items) => do
      let last ← items.getLast?
      return .tables (items.dropLast ++ [← inside change path last])
    | some _ => none

/-- Opens the table that a header names. Each has one header only. -/
def openTable (key : String) : Entries → Option Entries :=
  alter key fun
    | none => some (.table .header [])
    | some (.table .implied entries) => some (.table .header entries)
    | some _ => none

/-- Opens one more table under a header. -/
def openNext (key : String) : Entries → Option Entries :=
  alter key fun
    | none => some (.tables [[]])
    | some (.tables items) => some (.tables (items ++ [[]]))
    | some _ => none

end Entries
end FeatureTest.Toml
