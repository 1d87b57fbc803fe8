/-!
Documents: trees of scalars, lists and maps, as they are read from a file. Maps keep their order
and their repeated keys. Tags are kept, though whoever knows what should be there looks past them.
-/
namespace FeatureTest

inductive Scalar where
  /-- Written bare, so that what it is depends on what is asked of it. -/
  | plain (text : String)
  | text (text : String)
  | null
  | bool (value : Bool)
  | natural (value : Nat)
  /-- A number that is no natural number. -/
  | otherNumber
  deriving DecidableEq, Repr

inductive Document where
  | scalar (value : Scalar)
  | list (items : List Document)
  | map (entries : List (Document × Document))
  | tagged (tag : String) (document : Document)

namespace Scalar

/-- The value of a hexadecimal digit. -/
def digit? (c : Char) : Option Nat :=
  if '0' ≤ c ∧ c ≤ '9' then some (c.toNat - '0'.toNat)
  else if 'a' ≤ c ∧ c ≤ 'f' then some (c.toNat - 'a'.toNat + 10)
  else if 'A' ≤ c ∧ c ≤ 'F' then some (c.toNat - 'A'.toNat + 10)
  else none

/-- Reads digits of a base after the digits whose value is `value`. -/
def digitsAfter (base value : Nat) : List Char → Option Nat
  | [] => some value
  | c :: cs => do
    let d ← digit? c
    if d < base then digitsAfter base (value * base + d) cs else none

/-- The value of a numeral that has at least one digit. -/
def numeral? (base : Nat) (cs : List Char) : Option Nat :=
  if cs.isEmpty then none else digitsAfter base 0 cs

/-- A numeral with a leading zero, which is no number. -/
def hasLeadingZero (cs : List Char) : Bool :=
  match cs with
  | '0' :: c :: rest => (c :: rest).all fun d => '0' ≤ d && d ≤ '9'
  | _ => false

/-- A bare natural number: decimal without leading zeros, or after a mark for its base. -/
def plainNatural? (cs : List Char) : Option Nat :=
  let unsigned := match cs with
    | '+' :: rest => rest
    | _ => cs
  match unsigned with
  | '0' :: 'x' :: digits => numeral? 16 digits
  | '0' :: 'o' :: digits => numeral? 8 digits
  | '0' :: 'b' :: digits => numeral? 2 digits
  | _ => if hasLeadingZero unsigned then none else numeral? 10 unsigned

def plainBool? : String → Option Bool
  | "true" | "True" | "TRUE" => some true
  | "false" | "False" | "FALSE" => some false
  | _ => none

def isPlainNull : String → Bool
  | "~" | "null" | "Null" | "NULL" => true
  | _ => false

/-- The text, where a text is due. Anything bare is one. -/
def text? : Scalar → Option String
  | plain t | text t => some t
  | _ => none

def bool? : Scalar → Option Bool
  | plain t => plainBool? t
  | bool b => some b
  | _ => none

/-- The value, where a value of 32 bits is due. -/
def value? (s : Scalar) : Option Nat :=
  let n := match s with
    | plain t => plainNatural? t.toList
    | natural n => some n
    | _ => none
  n.filter (· < UInt32.size)

/-- Whether the scalar says that nothing is there. -/
def isAbsent : Scalar → Bool
  | plain t => t.isEmpty || isPlainNull t
  | null => true
  | _ => false

end Scalar

namespace Document

/-- What is there, unless the document says that nothing is. Where there is a tag something is. -/
def present? : Document → Option Document
  | scalar s => if s.isAbsent then none else some (scalar s)
  | d => some d

/-- What lies below the tags. -/
def untagged : Document → Document
  | tagged _ d => d.untagged
  | d => d

/-- The items of a list. A bare nothing is an empty list. -/
def items? (d : Document) : Option (List Document) :=
  match d.untagged with
  | list items => some items
  | scalar (.plain "") => some []
  | _ => none

/-- The entries of a map. A bare nothing is an empty map. -/
def entries? (d : Document) : Option (List (Document × Document)) :=
  match d.untagged with
  | map entries => some entries
  | scalar (.plain "") => some []
  | _ => none

def scalar? (d : Document) : Option Scalar :=
  match d.untagged with
  | scalar s => some s
  | _ => none

def text? (d : Document) : Option String := d.scalar?.bind (·.text?)

def value? (d : Document) : Option Nat := d.scalar?.bind (·.value?)

def bool? (d : Document) : Option Bool := d.scalar?.bind (·.bool?)

/-- Reads what is there, if anything is. -/
def optional {α : Type} (read : Document → Option α) (d : Document) : Option (Option α) :=
  match d.present? with
  | none => some none
  | some d => some <$> read d

end Document

/-- A record's fields by name, each at most once. -/
abbrev Fields := List (String × Document)

namespace Fields

/-- Reads the fields of a record that may have the given names. Where a format allows it, a record
may also be the list of its fields in that order. -/
def ofDocument (asList : Bool) (names : List String) (d : Document) : Option Fields := do
  match d.untagged with
  | .list items =>
    if asList && items.length ≤ names.length then some (names.zip items) else none
  | _ =>
    let fields ← (← d.entries?).mapM fun (key, value) => do
      let name ← key.text?
      if name ∈ names then some (name, value) else none
    if (fields.map (·.1)).Nodup then some fields else none

/-- A field that must be there. -/
def required {α : Type} (fields : Fields) (name : String) (read : Document → Option α) :
    Option α := do
  read (← fields.lookup name)

/-- A field that may be missing, or say that nothing is there. -/
def nullable {α : Type} (fields : Fields) (name : String) (read : Document → Option α) :
    Option (Option α) :=
  match fields.lookup name with
  | none => some none
  | some d => d.optional read

/-- A field that may be missing. -/
def defaulted {α : Type} (fields : Fields) (name : String) (default : α)
    (read : Document → Option α) : Option α :=
  match fields.lookup name with
  | none => some default
  | some d => read d

end Fields
end FeatureTest
