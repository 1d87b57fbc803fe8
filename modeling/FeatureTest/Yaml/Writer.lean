import FeatureTest.Yaml.Cursor
import FeatureTest.Yaml.Schema

/-!
YAML values as text: block collections with lists as deep as the key above them, and scalars bare
where that is not ambiguous. A tag stands right before its value.
-/
namespace FeatureTest.Yaml

/-- How a text is written. -/
inductive Style where
  | plain | singleQuoted | doubleQuoted | literal
  deriving DecidableEq

namespace Style

/-- What matters about the characters of a text. -/
structure Features where
  /-- Something in it would be read as an indicator. -/
  indicators : Bool := false
  special : Bool := false
  lineBreaks : Bool := false
  /-- A space comes right after a line break. -/
  breakSpace : Bool := false
  /-- A space comes right before a line break. -/
  spaceBreak : Bool := false

/-- The characters that a text cannot start with bare. -/
def startIndicators : List Char := "#,[]\x7b\x7d&*!|>'\"%@`".toList

def isWritable (c : Char) : Bool :=
  let n := c.toNat
  n == 10 || (0x20 ≤ n && n ≤ 0x7E) || (0xA0 ≤ n && n != 0xFEFF && n != 0xFFFE && n != 0xFFFF)

/-- Looks at each character with the one before it. -/
def featuresAfter (before : Option Char) (f : Features) : List Char → Features
  | [] => f
  | c :: cs =>
    let ends := cs.head?.all fun d => isSpace d || isBreak d
    let preceded := before.all fun d => isSpace d || isBreak d
    let indicator :=
      if before.isNone then
        startIndicators.contains c || ((c == '?' || c == ':' || c == '-') && ends)
      else (c == ':' && ends) || (c == '#' && preceded)
    featuresAfter (some c) {
      indicators := f.indicators || indicator
      special := f.special || !isWritable c
      lineBreaks := f.lineBreaks || isBreak c
      breakSpace := f.breakSpace || (c == ' ' && before.any isBreak)
      spaceBreak := f.spaceBreak || (isBreak c && before == some ' ') } cs

def featuresOf (cs : List Char) : Features :=
  let marker := cs.take 3 == ['-', '-', '-'] || cs.take 3 == ['.', '.', '.']
  featuresAfter none { indicators := marker } cs

def isSpaceOrBreak (c : Char) : Bool := c == ' ' || isBreak c

/-- The plainest style that a text can be read back from. -/
def ofText (s : String) : Style :=
  let cs := s.toList
  let f := featuresOf cs
  let single := if f.breakSpace || f.spaceBreak || f.special then doubleQuoted else singleQuoted
  if cs.contains '\n' then
    if cs.getLast? = some ' ' || f.spaceBreak || f.special then doubleQuoted else literal
  else if isAmbiguous s then single
  else if cs.head?.any isSpaceOrBreak || cs.getLast?.any isSpaceOrBreak || f.breakSpace ||
      f.spaceBreak || f.special || f.lineBreaks || f.indicators then single
  else plain

end Style

/-- The escape of a character within double quotes. -/
def escape (c : Char) : List Char :=
  let n := c.toNat
  let hex (width : Nat) : List Char :=
    let digits := (Nat.toDigits 16 n).map Char.toUpper
    List.replicate (width - digits.length) '0' ++ digits
  if n = 0 then ['\\', '0']
  else if n = 7 then ['\\', 'a']
  else if n = 8 then ['\\', 'b']
  else if n = 9 then ['\\', 't']
  else if n = 10 then ['\\', 'n']
  else if n = 11 then ['\\', 'v']
  else if n = 12 then ['\\', 'f']
  else if n = 13 then ['\\', 'r']
  else if n = 27 then ['\\', 'e']
  else if c = '"' then ['\\', '"']
  else if c = '\\' then ['\\', '\\']
  else if n = 0x85 then ['\\', 'N']
  else if n = 0x2028 then ['\\', 'L']
  else if n = 0x2029 then ['\\', 'P']
  else if Style.isWritable c then [c]
  else if n ≤ 0xFF then ['\\', 'x'] ++ hex 2
  else if n ≤ 0xFFFF then ['\\', 'u'] ++ hex 4
  else ['\\', 'U'] ++ hex 8

def margin (indent : Nat) : String := String.ofList (List.replicate indent ' ')

/-- The marks after the bar of a literal: its indentation if the text starts blank, and what
becomes of its last line breaks. -/
def literalMarks (cs : List Char) : String :=
  (if cs.head?.any Style.isSpaceOrBreak then "2" else "") ++
  (match cs.reverse with
    | c :: d :: _ => if !isBreak c then "-" else if isBreak d then "+" else ""
    | [c] => if isBreak c then "+" else "-"
    | [] => "-")

/-- The lines of a literal, each that holds something indented. -/
def literalLines (indent : Nat) (startsLine : Bool) : List Char → List Char
  | [] => []
  | c :: cs =>
    if isBreak c then c :: literalLines indent true cs
    else if startsLine then List.replicate indent ' ' ++ c :: literalLines indent false cs
    else c :: literalLines indent false cs

/-- A text within single quotes. A line separator starts a line, which is indented by `indent`;
`column` is how far it has come before its first character that is no space. -/
def quotedLines (indent : Nat) (column : Option Nat) : List Char → List Char
  | [] => indentation column
  | c :: cs =>
    if isBreak c then c :: quotedLines indent (some 0) cs
    else if c = ' ' then c :: quotedLines indent (column.map (· + 1)) cs
    else indentation column ++ (if c = '\'' then ['\'', c] else [c]) ++ quotedLines indent none cs
where
  indentation (column : Option Nat) : List Char :=
    match column with
    | none => []
    | some n =>
      if n < indent then List.replicate (indent - n) ' ' else '\n' :: List.replicate indent ' '

/-- A text inside a collection indented by `indent`, without a line end. -/
def textAt (indent : Nat) (s : String) : String :=
  match Style.ofText s with
  | .plain => s
  | .singleQuoted => String.ofList ('\'' :: quotedLines (indent + 2) none s.toList ++ ['\''])
  | .doubleQuoted => String.ofList ('"' :: s.toList.flatMap escape ++ ['"'])
  | .literal =>
    let lines := literalLines (indent + 2) true s.toList
    let body := if s.toList.getLast?.any isBreak then lines.dropLast else lines
    "|" ++ literalMarks s.toList ++ "\n" ++ String.ofList body

namespace Value

/-- The bytes that a value takes before a colon, if it takes one line. -/
def keyLength? : Value String → Option Nat
  | text t => if t.toList.any isBreak then none else some t.utf8ByteSize
  | list items => if items.isEmpty then some 0 else none
  | map entries => if entries.isEmpty then some 0 else none
  | tagged tag value => value.keyLength?.map (tag.utf8ByteSize + 1 + ·)
  | _ => some 0

/-- Whether a value fits before a colon. -/
def isSimpleKey (value : Value String) : Bool := value.keyLength?.any (· ≤ 128)

/-- A value that takes one line, or a text. -/
def atom (indent : Nat) : Value String → String
  | null => "null"
  | bool b => if b then "true" else "false"
  | integer n => toString n
  | float t => t
  | text t => textAt indent t
  | list _ => "[]"
  | map _ => "\x7b\x7d"
  | tagged tag value => "!" ++ tag ++ " " ++ atom indent value

mutual

/-- A value after a key, whose map is indented by `indent`. -/
def afterKey (indent : Nat) : Value String → String
  | list (item :: items) => "\n" ++ itemsAt indent (item :: items)
  | map (entry :: entries) => "\n" ++ entriesAt (indent + 2) (entry :: entries)
  | tagged tag value => " !" ++ tag ++ afterKey indent value
  | value => " " ++ atom indent value ++ "\n"

/-- A value after a mark, such as the dash of an item, that is indented by `indent`. After a tag a
list starts a line of its own, as deep as the mark or, in a list, deeper. -/
def afterMark (indent : Nat) (inList : Bool) : Value String → String
  | list (item :: items) => " -" ++ afterMark (indent + 2) true item ++ itemsAt (indent + 2) items
  | map (entry :: entries) => " " ++ entryAt (indent + 2) entry ++ entriesAt (indent + 2) entries
  | tagged tag (list (item :: items)) =>
    " !" ++ tag ++ "\n" ++ itemsAt (if inList then indent + 2 else indent) (item :: items)
  | tagged tag (map (entry :: entries)) =>
    " !" ++ tag ++ "\n" ++ entriesAt (indent + 2) (entry :: entries)
  | value => " " ++ atom indent value ++ "\n"

/-- An entry whose map is indented by `indent`, less its own indentation. -/
def entryAt (indent : Nat) : Value String × Value String → String
  | (key, value) =>
    if key.isSimpleKey then atom indent key ++ ":" ++ afterKey indent value
    else "?" ++ afterMark indent false key ++ margin indent ++ ":" ++ afterMark indent false value

def itemsAt (indent : Nat) : List (Value String) → String
  | [] => ""
  | item :: items => margin indent ++ "-" ++ afterMark indent true item ++ itemsAt indent items

def entriesAt (indent : Nat) : List (Value String × Value String) → String
  | [] => ""
  | entry :: entries => margin indent ++ entryAt indent entry ++ entriesAt indent entries

end

mutual

/-- Whether a tag is on a value that has one already. -/
def hasDoubleTag : Value String → Bool
  | list items => itemsHaveDoubleTag items
  | map entries => entriesHaveDoubleTag entries
  | tagged _ (tagged _ _) => true
  | tagged _ value => value.hasDoubleTag
  | _ => false

def itemsHaveDoubleTag : List (Value String) → Bool
  | [] => false
  | item :: items => item.hasDoubleTag || itemsHaveDoubleTag items

def entriesHaveDoubleTag : List (Value String × Value String) → Bool
  | [] => false
  | (key, value) :: entries =>
    key.hasDoubleTag || value.hasDoubleTag || entriesHaveDoubleTag entries

end

/-- The lines of a whole document. -/
def lines : Value String → String
  | list (item :: items) => itemsAt 0 (item :: items)
  | map (entry :: entries) => entriesAt 0 (entry :: entries)
  | tagged tag (list (item :: items)) => "!" ++ tag ++ "\n" ++ itemsAt 0 (item :: items)
  | tagged tag (map (entry :: entries)) => "!" ++ tag ++ "\n" ++ entriesAt 0 (entry :: entries)
  | value => atom 0 value ++ "\n"

/-- What is said of a value with two tags, which cannot be written. -/
def doubleTagMessage : String := "serializing nested enums in YAML is not supported yet"

/-- The text of a whole document. -/
def toYaml (value : Value String) : Except String String :=
  if value.hasDoubleTag then .error doubleTagMessage else .ok value.lines

end Value
end FeatureTest.Yaml
