import FeatureTest.Yaml.Reader
import FeatureTest.Yaml.Schema

/-!
Documents as values, where nothing says what their scalars should be.
-/
namespace FeatureTest.Yaml

namespace Value

mutual

/-- Whether two values are the same, down to their tags. -/
def same {Tag : Type} [BEq Tag] : Value Tag → Value Tag → Bool
  | null, null => true
  | bool a, bool b => a == b
  | integer a, integer b => a == b
  | float a, float b => a == b
  | text a, text b => a == b
  | list a, list b => sameItems a b
  | map a, map b => sameEntries a b
  | tagged s a, tagged t b => s == t && same a b
  | _, _ => false

def sameItems {Tag : Type} [BEq Tag] : List (Value Tag) → List (Value Tag) → Bool
  | [], [] => true
  | a :: as, b :: bs => same a b && sameItems as bs
  | _, _ => false

def sameEntries {Tag : Type} [BEq Tag] :
    List (Value Tag × Value Tag) → List (Value Tag × Value Tag) → Bool
  | [], [] => true
  | (k, v) :: as, (l, w) :: bs => same k l && same v w && sameEntries as bs
  | _, _ => false

end

/-- The number of collections that may lie within one another. -/
def deepest : Nat := 128

mutual

/-- Reads a document as a value, unless a key repeats, a number is too long, or more than `depth`
collections lie within one another. -/
def ofDocument? (depth : Nat) : Document → Option (Value String)
  | .scalar (.plain t) => if isLongInteger t then none else some (plainValue t)
  | .scalar (.text t) => some (.text t)
  | .scalar .null => some .null
  | .scalar (.bool b) => some (.bool b)
  | .scalar (.natural n) => some (.integer n)
  | .scalar .otherNumber => none
  | .list items =>
    match depth with
    | 0 => none
    | depth + 1 => do return .list (← ofItems? depth items)
  | .map entries =>
    match depth with
    | 0 => none
    | depth + 1 => do
      let entries ← ofEntries? depth entries
      if (entries.map (·.1)).Pairwise (fun a b => same a b = false) then return .map entries
      else none
  | .tagged tag d => do return .tagged tag (← ofDocument? depth d)

def ofItems? (depth : Nat) : List Document → Option (List (Value String))
  | [] => some []
  | item :: items => do return (← ofDocument? depth item) :: (← ofItems? depth items)

def ofEntries? (depth : Nat) :
    List (Document × Document) → Option (List (Value String × Value String))
  | [] => some []
  | (key, value) :: entries => do
    return (← ofDocument? depth key, ← ofDocument? depth value) :: (← ofEntries? depth entries)

end

/-- Reads a text as a value. No document at all is null. -/
def ofYaml? (text : String) : Option (Value String) := do
  match ← read text.toList with
  | some d => ofDocument? deepest d
  | none => return .null

end Value
end FeatureTest.Yaml
