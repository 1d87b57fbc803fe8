/-!
YAML values. A map keeps the order of its keys, none of which repeats. A tag is part of a value, but
whoever asks for a text, a list or a map looks past it.
-/
namespace FeatureTest.Yaml

/-- A value that may carry tags of some type. Unless a type is given it carries none. -/
inductive Value (Tag : Type := Empty) where
  | null
  | bool (value : Bool)
  | integer (value : Int)
  /-- A number that is no integer, in its shortest text. -/
  | float (text : String)
  | text (value : String)
  | list (items : List (Value Tag))
  | map (entries : List (Value Tag × Value Tag))
  | tagged (tag : Tag) (value : Value Tag)

namespace Value

variable {Tag : Type}

/-- What lies below the tags. -/
def untagged : Value Tag → Value Tag
  | tagged _ value => value.untagged
  | value => value

/-- Puts another value below the tags. -/
def withUntagged : Value Tag → Value Tag → Value Tag
  | tagged tag value, inner => tagged tag (value.withUntagged inner)
  | _, inner => inner

def text? (value : Value Tag) : Option String :=
  match value.untagged with
  | text t => some t
  | _ => none

def items? (value : Value Tag) : Option (List (Value Tag)) :=
  match value.untagged with
  | list items => some items
  | _ => none

def entries? (value : Value Tag) : Option (List (Value Tag × Value Tag)) :=
  match value.untagged with
  | map entries => some entries
  | _ => none

/-- Whether the value, as a key, is the given text. A tagged text is another key. -/
def isText (s : String) : Value Tag → Bool
  | text t => t == s
  | _ => false

/-- The value under a text key. -/
def find? (key : String) (entries : List (Value Tag × Value Tag)) : Option (Value Tag) :=
  (entries.find? (·.1.isText key)).map (·.2)

/-- Puts a value under a text key, in place of an old one or else at the end. -/
def put (key : String) (value : Value Tag) :
    List (Value Tag × Value Tag) → List (Value Tag × Value Tag)
  | [] => [(text key, value)]
  | (k, v) :: rest =>
    if k.isText key then (k, value) :: rest else (k, v) :: put key value rest

/-- The value under a text key of a map. -/
def get? (key : String) (value : Value Tag) : Option (Value Tag) := value.entries?.bind (find? key)

/-- Puts a value under a text key of a map. What is no map stays as it is. -/
def set (value : Value Tag) (key : String) (new : Value Tag) : Value Tag :=
  match value.entries? with
  | some entries => value.withUntagged (.map (put key new entries))
  | none => value

end Value
end FeatureTest.Yaml
