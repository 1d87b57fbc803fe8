import FeatureTest.Yaml.Token

/-!
YAML documents read from their tokens. An alias stands for a copy of what its anchor names.
-/
namespace FeatureTest.Yaml

/-- The tokens still to read, and what each anchor names. -/
structure ReadState where
  tokens : List Token
  anchors : List (List Char × Document) := []

abbrev Read := StateT ReadState Option

namespace Read

def peek : Read (Option Token) := return (← get).tokens.head?

def skip : Read Unit := modify fun s => { s with tokens := s.tokens.tail }

def fail {α : Type} : Read α := fun _ => none

/-- Passes a token if it comes next, and tells whether it did. -/
def passes (t : Token) : Read Bool := do
  if (← peek) = some t then
    skip
    return true
  else return false

/-- What is read where nothing is written. -/
def nothing : Document := .scalar (.plain "")

/-- Whether one of some tokens comes next, or none at all. -/
def nextIs (ts : List Token) : Read Bool := do
  match ← peek with
  | none => return true
  | some t => return ts.contains t

/-- The properties before a node: its anchor and its tag. -/
def properties (anchor tag : Option (List Char)) :
    Nat → Read (Option (List Char) × Option (List Char))
  | 0 => return (anchor, tag)
  | fuel + 1 => do
    match ← peek with
    | some (.anchor name) =>
      if anchor.isSome then return (anchor, tag)
      skip
      properties (some name) tag fuel
    | some (.tag text) =>
      if tag.isSome then return (anchor, tag)
      skip
      properties anchor (some text) fuel
    | _ => return (anchor, tag)

/-- The name of a tag that a value keeps. Any other one says what a scalar is. -/
def localTag? : List Char → Option String
  | '!' :: '!' :: _ | '!' :: '<' :: _ | ['!'] => none
  | '!' :: name => some (String.ofList name)
  | _ => none

/-- Puts a tag around a document if it is one to keep. -/
def withTag (tag : Option (List Char)) (d : Document) : Document :=
  match tag.bind localTag? with
  | some name => .tagged name d
  | none => d

/-- A scalar; a plain one that is tagged as text is text. -/
def scalarOf (isPlain : Bool) (tag : Option (List Char)) (text : List Char) : Document :=
  let s := String.ofList text
  .scalar (if isPlain && tag != some "!!str".toList then .plain s else .text s)

mutual

/-- Reads a node. Block collections are read where they may stand, and so are the entries of a
sequence that is not indented. -/
def node (block indentless : Bool) : Nat → Read Document
  | 0 => fail
  | fuel + 1 => do
    if let some (.alias name) ← peek then
      skip
      match (← get).anchors.lookup name with
      | some d => return d
      | none => fail
    else
      let (anchor, tag) ← properties none none 2
      let d ← match ← peek with
        | some .blockEntry =>
          if indentless then Document.list <$> indentlessItems fuel
          else if anchor.isSome || tag.isSome then pure nothing else fail
        | some (.scalar isPlain text) => do
          skip
          pure (scalarOf isPlain tag text)
        | some .flowSequenceStart => do
          skip
          Document.list <$> flowItems true fuel
        | some .flowMappingStart => do
          skip
          Document.map <$> flowEntries true fuel
        | some .sequenceStart =>
          if block then do
            skip
            Document.list <$> blockItems fuel
          else fail
        | some .mappingStart =>
          if block then do
            skip
            Document.map <$> blockEntries fuel
          else fail
        | _ => if anchor.isSome || tag.isSome then pure nothing else fail
      let d := withTag tag d
      if let some name := anchor then
        modify fun s => { s with anchors := (name, d) :: s.anchors }
      return d

/-- Reads a node, unless one of some tokens shows that there is none. -/
def nodeUnless (ts : List Token) (block indentless : Bool) : Nat → Read Document
  | 0 => fail
  | fuel + 1 => do
    if ← nextIs ts then return nothing else node block indentless fuel

def blockItems : Nat → Read (List Document)
  | 0 => fail
  | fuel + 1 => do
    if ← passes .blockEntry then
      let item ← nodeUnless [.blockEntry, .blockEnd] true false fuel
      return item :: (← blockItems fuel)
    else if ← passes .blockEnd then return []
    else fail

def indentlessItems : Nat → Read (List Document)
  | 0 => fail
  | fuel + 1 => do
    if ← passes .blockEntry then
      let item ← nodeUnless [.blockEntry, .key, .value, .blockEnd] true false fuel
      return item :: (← indentlessItems fuel)
    else return []

def blockEntries : Nat → Read (List (Document × Document))
  | 0 => fail
  | fuel + 1 => do
    if ← passes .blockEnd then return []
    else if (← peek) = some .key then
      skip
      let key ← nodeUnless [.key, .value, .blockEnd] true true fuel
      let value ← blockValue fuel
      return (key, value) :: (← blockEntries fuel)
    else fail

def blockValue : Nat → Read Document
  | 0 => fail
  | fuel + 1 => do
    if ← passes .value then nodeUnless [.key, .value, .blockEnd] true true fuel else return nothing

/-- Passes what must stand between entries of a flow collection, and tells whether it ends. -/
def flowNext (first : Bool) (close : Token) : Nat → Read Bool
  | 0 => fail
  | _ + 1 => do
    if ← passes close then return true
    else if first then return false
    else if ← passes .flowEntry then passes close
    else fail

/-- Reads the items of a flow sequence. An item with a question mark is a map of one entry, whose
empty key takes the place of the token after the mark. -/
def flowItems (first : Bool) : Nat → Read (List Document)
  | 0 => fail
  | fuel + 1 => do
    if ← flowNext first .flowSequenceEnd fuel then return []
    let item ← if ← passes .key then do
        let key ← if ← nextIs [.value, .flowEntry, .flowSequenceEnd] then do
            skip
            pure nothing
          else node false false fuel
        let value ← flowValue .flowSequenceEnd fuel
        pure (Document.map [(key, value)])
      else node false false fuel
    return item :: (← flowItems false fuel)

def flowEntries (first : Bool) : Nat → Read (List (Document × Document))
  | 0 => fail
  | fuel + 1 => do
    if ← flowNext first .flowMappingEnd fuel then return []
    let entry ← if ← passes .key then do
        let key ← nodeUnless [.value, .flowEntry, .flowMappingEnd] false false fuel
        pure (key, ← flowValue .flowMappingEnd fuel)
      else do pure (← node false false fuel, nothing)
    return entry :: (← flowEntries false fuel)

def flowValue (close : Token) : Nat → Read Document
  | 0 => fail
  | fuel + 1 => do
    if ← passes .value then nodeUnless [.flowEntry, close] false false fuel else return nothing

end

/-- Passes tokens that come next. -/
def passAll (t : Token) : Nat → Read Unit
  | 0 => return
  | fuel + 1 => do if ← passes t then passAll t fuel

/-- Passes directives that come next, and tells what they set. -/
def directives : Nat → Read (List (List Char))
  | 0 => fail
  | fuel + 1 => do
    match ← peek with
    | some (.directive subject) =>
      skip
      return subject :: (← directives fuel)
    | _ => return []

/-- Reads the only document, if there is any. -/
def document (fuel : Nat) : Read (Option Document) := do
  if (← get).tokens.isEmpty then return none
  let subjects ← directives fuel
  if !subjects.Nodup then fail
  let d ← if ← passes .documentStart then do
      if (← peek) matches some (.directive _) then pure nothing
      else nodeUnless [.documentStart, .documentEnd] true false fuel
    else if !subjects.isEmpty then fail
    else node true false fuel
  passAll .documentEnd fuel
  if (← get).tokens.isEmpty then return some d else fail

end Read

/-- Reads a text that holds one document, or none. -/
def read (text : List Char) : Option (Option Document) := do
  let tokens ← Token.scan text
  let (document, _) ← Read.document (4 * tokens.length + 8) { tokens }
  return document

end FeatureTest.Yaml
