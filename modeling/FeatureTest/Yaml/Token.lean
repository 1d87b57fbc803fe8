import FeatureTest.Yaml.ScalarText

/-!
YAML tokens. Indentation becomes tokens that open and close collections, and a key is marked as
one only when the colon after it is met.
-/
namespace FeatureTest.Yaml

inductive Token where
  /-- It sets what its subject names, which may happen once. -/
  | directive (subject : List Char)
  | documentStart
  | documentEnd
  | sequenceStart
  | mappingStart
  | blockEnd
  | flowSequenceStart
  | flowSequenceEnd
  | flowMappingStart
  | flowMappingEnd
  | blockEntry
  | flowEntry
  | key
  | value
  | alias (name : List Char)
  | anchor (name : List Char)
  | tag (text : List Char)
  | scalar (isPlain : Bool) (text : List Char)
  deriving DecidableEq

namespace Token

/-- A place where a key may turn out to have started. -/
structure PossibleKey where
  /-- Nothing but a key can stand here. -/
  required : Bool
  /-- The number of tokens before it. -/
  position : Nat
  line : Nat
  column : Nat
  index : Nat

structure Scanner where
  cursor : Cursor
  tokens : Array Token := #[]
  /-- The number of flow collections around this place. -/
  flow : Nat := 0
  /-- Whether a key may start here. -/
  keyAllowed : Bool := true
  indent : Int := -1
  outerIndents : List Int := []
  /-- The possible key of this and each outer flow collection. -/
  keys : List (Option PossibleKey) := [none]

namespace Scanner

def push (s : Scanner) (t : Token) : Scanner := { s with tokens := s.tokens.push t }

def insert (s : Scanner) (position : Nat) (t : Token) : Scanner :=
  { s with tokens := s.tokens.insertIdxIfInBounds position t }

/-- Passes blanks, comments and line breaks up to the next token. A byte order mark at the start of
a line is blank too, though it takes up a column. -/
def skipBlank (s : Scanner) : Nat → Scanner
  | 0 => s
  | fuel + 1 =>
    let tabs := s.flow > 0 || !s.keyAllowed
    let c := if s.cursor.column == 0 && s.cursor.has 0 isByteOrderMark then s.cursor.skip
      else s.cursor
    let c := (c.skipWhile fun d => d == ' ' || (tabs && d == '\t')).skipComment
    if c.atBreak then
      skipBlank { s with cursor := c.skipBreak.2, keyAllowed := s.keyAllowed || s.flow == 0 } fuel
    else { s with cursor := c }

/-- Gives up the keys whose colon can no longer follow: a key keeps to one line and to 1024
characters. -/
def dropStaleKeys (s : Scanner) : Option Scanner := do
  let keys ← s.keys.mapM fun key => match key with
    | none => some none
    | some k =>
      if k.line < s.cursor.line || k.index + 1024 < s.cursor.index then
        if k.required then none else some none
      else some (some k)
  return { s with keys }

/-- Gives up the innermost possible key. -/
def dropKey (s : Scanner) : Option Scanner :=
  match s.keys with
  | some k :: outer => if k.required then none else some { s with keys := none :: outer }
  | _ => some s

/-- Notes that a key may start here. -/
def saveKey (s : Scanner) : Option Scanner :=
  if s.keyAllowed then do
    let c := s.cursor
    let key : PossibleKey := {
      required := s.flow == 0 && s.indent == c.column
      position := s.tokens.size
      line := c.line
      column := c.column
      index := c.index }
    let s ← s.dropKey
    return { s with keys := some key :: s.keys.tail }
  else some s

/-- Opens a block collection at a column deeper than the one around it. -/
def rollIndent (s : Scanner) (column position : Nat) (t : Token) : Scanner :=
  if s.flow = 0 ∧ s.indent < column then
    { s with indent := column, outerIndents := s.indent :: s.outerIndents }.insert position t
  else s

/-- Closes the block collections deeper than a column. -/
def unrollTo (column indent : Int) (tokens : Array Token) :
    List Int → Array Token × Int × List Int
  | [] => (tokens, indent, [])
  | outer :: rest =>
    if column < indent then unrollTo column outer (tokens.push .blockEnd) rest
    else (tokens, indent, outer :: rest)

def unrollIndent (s : Scanner) (column : Int) : Scanner :=
  if s.flow > 0 then s
  else
    let (tokens, indent, outerIndents) := unrollTo column s.indent s.tokens s.outerIndents
    { s with tokens, indent, outerIndents }

def skip (s : Scanner) (n : Nat) : Scanner := { s with cursor := s.cursor.skipMany n }

def documentMarker (s : Scanner) (t : Token) : Option Scanner := do
  let s ← (s.unrollIndent (-1)).dropKey
  return { s.push t with keyAllowed := false }.skip 3

def isAnchorChar (c : Char) : Bool := c.isAlphanum || c == '_' || c == '-'

def isTagChar (c : Char) : Bool := isAnchorChar c || "!;/?:@&=+$.~*'()".toList.contains c

def isTagHandle (cs : List Char) : Bool :=
  cs == ['!'] || (cs.head? == some '!' && cs.length > 1 && cs.getLast? == some '!' &&
    (cs.drop 1).dropLast.all isAnchorChar)

def isUriChar (c : Char) : Bool := isTagChar c || ",[]".toList.contains c

/-- What a directive line sets: the version, or a tag handle. -/
def directiveSubject? (line : List Char) : Option (List Char) :=
  let text := line.takeWhile (· ≠ '#')
  let words := (text.splitOnP isSpace).filter (!·.isEmpty)
  match words with
  | [name, version] =>
    if name == "YAML".toList && (version == "1.1".toList || version == "1.2".toList) then some name
    else none
  | [name, handle, uri] =>
    if name == "TAG".toList && isTagHandle handle && uri.all isUriChar &&
        (text.length = line.length || text.getLast?.any isSpace) then some handle
    else none
  | _ => none

def directive (s : Scanner) : Option Scanner := do
  let s ← (s.unrollIndent (-1)).dropKey
  let c := s.cursor.skip
  let line := c.rest.takeWhile (!isBreak ·)
  let subject ← directiveSubject? line
  let cursor := (c.skipMany line.length).skipBreak.2
  return { s.push (.directive subject) with keyAllowed := false, cursor }

def flowStart (s : Scanner) (t : Token) : Option Scanner := do
  let s ← s.saveKey
  return { s.push t with keyAllowed := true, flow := s.flow + 1, keys := none :: s.keys }.skip 1

def flowEnd (s : Scanner) (t : Token) : Option Scanner := do
  let s ← s.dropKey
  let keys := if s.flow > 0 then s.keys.tail else s.keys
  return { s.push t with keyAllowed := false, flow := s.flow - 1, keys }.skip 1

def flowEntry (s : Scanner) : Option Scanner := do
  let s ← s.dropKey
  return { s.push .flowEntry with keyAllowed := true }.skip 1

def blockEntry (s : Scanner) : Option Scanner := do
  if s.flow = 0 ∧ !s.keyAllowed then none
  else
    let s ← (s.rollIndent s.cursor.column s.tokens.size .sequenceStart).dropKey
    return { s.push .blockEntry with keyAllowed := true }.skip 1

def explicitKey (s : Scanner) : Option Scanner := do
  if s.flow = 0 ∧ !s.keyAllowed then none
  else
    let s ← (s.rollIndent s.cursor.column s.tokens.size .mappingStart).dropKey
    return { s.push .key with keyAllowed := s.flow == 0 }.skip 1

/-- A colon: what was possibly a key is one now. -/
def value (s : Scanner) : Option Scanner :=
  match s.keys with
  | some k :: outer =>
    let s := (s.insert k.position .key).rollIndent k.column k.position .mappingStart
    some ({ s.push .value with keyAllowed := false, keys := none :: outer }.skip 1)
  | _ =>
    if s.flow = 0 then
      if !s.keyAllowed then none
      else
        let s := s.rollIndent s.cursor.column s.tokens.size .mappingStart
        some ({ s.push .value with keyAllowed := true }.skip 1)
    else some ({ s.push .value with keyAllowed := false }.skip 1)

def anchor (s : Scanner) (token : List Char → Token) : Option Scanner := do
  let s ← s.saveKey
  let c := s.cursor.skip
  let name := c.rest.takeWhile isAnchorChar
  let c := c.skipMany name.length
  if name.isEmpty || !(c.endsAt 0 || c.has 0 fun d => "?:,]\x7d%@`".toList.contains d) then none
  else return { s.push (token name) with keyAllowed := false, cursor := c }

/-- Whether a tag is well-formed: after its handle, which no directive defines, comes a name. -/
def isTag (text : List Char) : Bool :=
  match text.tail.dropWhile isAnchorChar with
  | '!' :: name => text.take 2 == ['!', '!'] && !name.isEmpty
  | _ => true

def tag (s : Scanner) : Option Scanner := do
  let s ← s.saveKey
  let text := s.cursor.rest.takeWhile isTagChar
  let c := s.cursor.skipMany text.length
  if isTag text && (c.endsAt 0 || (s.flow > 0 && c.peek? == some ',')) then
    return { s.push (.tag text) with keyAllowed := false, cursor := c }
  else none

def block (s : Scanner) (literal : Bool) : Option Scanner := do
  let s ← s.dropKey
  let (text, cursor) ← blockScalar literal s.indent s.cursor.skip
  return { s.push (.scalar false text) with keyAllowed := true, cursor }

def quoted (s : Scanner) (quote : Char) : Option Scanner := do
  let s ← s.saveKey
  let (text, cursor) ← quotedScalar quote [] (s.cursor.rest.length + 1) s.cursor.skip
  return { s.push (.scalar false text) with keyAllowed := false, cursor }

def plain (s : Scanner) : Option Scanner := do
  let s ← s.saveKey
  let fuel := s.cursor.rest.length + 1
  let (text, broken, cursor) ← plainScalar (s.flow > 0) (s.indent + 1) [] .none fuel s.cursor
  return { s.push (.scalar true text) with keyAllowed := broken, cursor }

/-- Whether a plain scalar starts here. -/
def startsPlain (s : Scanner) : Bool :=
  let c := s.cursor
  let indicators := "-?:,[]\x7b\x7d#&*!|>'\"%@`".toList
  (!c.endsAt 0 && !(c.has 0 indicators.contains)) ||
    (c.peek? == some '-' && !(c.has 1 isSpace)) ||
    (s.flow == 0 && c.has 0 (fun d => d == '?' || d == ':') && !c.endsAt 1)

/-- Reads the token that starts here. -/
def next (s : Scanner) : Option Scanner :=
  let c := s.cursor
  if c.column == 0 && c.peek? == some '%' then s.directive
  else if c.atMarker '-' then s.documentMarker .documentStart
  else if c.atMarker '.' then s.documentMarker .documentEnd
  else match c.peek? with
    | none => none
    | some d =>
      let separated := s.flow > 0 || c.endsAt 1
      if d == '[' then s.flowStart .flowSequenceStart
      else if d == '{' then s.flowStart .flowMappingStart
      else if d == ']' then s.flowEnd .flowSequenceEnd
      else if d == '}' then s.flowEnd .flowMappingEnd
      else if d == ',' then s.flowEntry
      else if d == '-' && c.endsAt 1 then s.blockEntry
      else if d == '?' && separated then s.explicitKey
      else if d == ':' && separated then s.value
      else if d == '*' then s.anchor .alias
      else if d == '&' then s.anchor .anchor
      else if d == '!' then s.tag
      else if d == '|' && s.flow == 0 then s.block true
      else if d == '>' && s.flow == 0 then s.block false
      else if d == '\'' then s.quoted '\''
      else if d == '"' then s.quoted '"'
      else if s.startsPlain then s.plain
      else none

/-- Reads all tokens. -/
def run (s : Scanner) : Nat → Option (List Token)
  | 0 => none
  | fuel + 1 => do
    let s ← (s.skipBlank (s.cursor.rest.length + 1)).dropStaleKeys
    let s := s.unrollIndent s.cursor.column
    if s.cursor.atEnd then
      let s ← (s.unrollIndent (-1)).dropKey
      return s.tokens.toList
    else run (← s.next) fuel

end Scanner

/-- The tokens of a text, which may start with a byte order mark. -/
def scan (text : List Char) : Option (List Token) :=
  let text := if text.head?.any isByteOrderMark then text.tail else text
  if text.all isPrintable then { cursor := { rest := text } : Scanner }.run (text.length + 2)
  else none

end Token
end FeatureTest.Yaml
