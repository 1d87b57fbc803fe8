import FeatureTest.Document
import FeatureTest.Yaml.Cursor

/-!
Scalars as they are written: plain, quoted, and as blocks of lines. Each reader takes the place
where the scalar starts and gives its text and the place after it, or nothing if it is malformed.
-/
namespace FeatureTest.Yaml

/-- The blanks between two parts of a scalar. -/
inductive Gap where
  | spaces (text : List Char)
  /-- A line break, unless it was escaped, and the further breaks after it. -/
  | broken (first : List Char) (more : List Char)

namespace Gap

def none : Gap := spaces []

def isBroken : Gap → Bool
  | spaces _ => false
  | broken _ _ => true

/-- What the gap reads as: one line break is a space, and of more the first is dropped. -/
def folded : Gap → List Char
  | spaces text => text
  | broken ['\n'] [] => [' ']
  | broken ['\n'] more => more
  | broken first more => first ++ more

end Gap

/-- Passes blanks and line breaks. In the indentation of a plain scalar, that is before the column
`least`, there may be no tab. -/
def skipGap (fuel : Nat) (least : Int) (gap : Gap) (c : Cursor) : Option (Gap × Cursor) :=
  match fuel with
  | 0 => none
  | fuel + 1 =>
    match c.peek? with
    | Option.none => some (gap, c)
    | some d =>
      if isSpace d then
        match gap with
        | .spaces text => skipGap fuel least (.spaces (text ++ [d])) c.skip
        | .broken _ _ =>
          if d = '\t' ∧ (c.column : Int) < least then Option.none
          else skipGap fuel least gap c.skip
      else if isBreak d then
        let (text, after) := c.skipBreak
        match gap with
        | .spaces _ => skipGap fuel least (.broken text []) after
        | .broken first more => skipGap fuel least (.broken first (more ++ text)) after
      else some (gap, c)

/-- The indicators that end a plain scalar in a flow collection. -/
def isFlowEnd (c : Char) : Bool := c == ',' || c == '[' || c == ']' || c == '{' || c == '}'

/-- Whether a plain scalar ends at a colon or a flow indicator. -/
def endsPlain (inFlow : Bool) (c : Cursor) : Bool :=
  (c.peek? == some ':' && c.endsAt 1) || (inFlow && c.has 0 isFlowEnd)

/-- The characters up to the next blank or the end of a plain scalar. -/
def plainRun (inFlow : Bool) (text : List Char) : Nat → Cursor → Option (List Char × Cursor)
  | 0, _ => none
  | fuel + 1, c =>
    if c.endsAt 0 then some (text, c)
    else if inFlow && c.peek? == some ':' && c.has 1 fun d => d == '?' || isFlowEnd d then none
    else if endsPlain inFlow c then some (text, c)
    else plainRun inFlow (text ++ c.rest.take 1) fuel c.skip

/-- Reads a plain scalar whose further lines start at the column `least` or after it. Also tells
whether a line break follows. -/
def plainScalar (inFlow : Bool) (least : Int) (text : List Char) (gap : Gap) :
    Nat → Cursor → Option (List Char × Bool × Cursor)
  | 0, _ => none
  | fuel + 1, c =>
    if c.atDocumentMarker || c.peek? == some '#' then some (text, gap.isBroken, c)
    else do
      let (run, c') ← plainRun inFlow [] (c.rest.length + 1) c
      let (text, gap) := if run.isEmpty then (text, gap) else (text ++ gap.folded ++ run, .none)
      if !(c'.has 0 fun d => isSpace d || isBreak d) then some (text, gap.isBroken, c')
      else
        let (gap, c'') ← skipGap (c'.rest.length + 1) least gap c'
        if !inFlow && (c''.column : Int) < least then some (text, gap.isBroken, c'')
        else plainScalar inFlow least text gap fuel c''

/-- The character that a short escape stands for. -/
def shortEscape? : Char → Option Char
  | '0' => some (Char.ofNat 0)
  | 'a' => some (Char.ofNat 7)
  | 'b' => some (Char.ofNat 8)
  | 't' | '\t' => some '\t'
  | 'n' => some '\n'
  | 'v' => some (Char.ofNat 11)
  | 'f' => some (Char.ofNat 12)
  | 'r' => some '\r'
  | 'e' => some (Char.ofNat 27)
  | ' ' => some ' '
  | '"' => some '"'
  | '/' => some '/'
  | '\\' => some '\\'
  | 'N' => some (Char.ofNat 0x85)
  | '_' => some (Char.ofNat 0xA0)
  | 'L' => some (Char.ofNat 0x2028)
  | 'P' => some (Char.ofNat 0x2029)
  | _ => none

/-- How many digits follow an escape that gives a character's number. -/
def escapeDigits? : Char → Option Nat
  | 'x' => some 2
  | 'u' => some 4
  | 'U' => some 8
  | _ => none

/-- Reads an escape after its backslash: the character and the length of the escape. -/
def escape? (cs : List Char) : Option (Char × Nat) := do
  let kind ← cs.head?
  match shortEscape? kind with
  | some c => some (c, 1)
  | none =>
    let count ← escapeDigits? kind
    let digits := (cs.drop 1).take count
    if digits.length < count then none
    else
      let n ← Scalar.numeral? 16 digits
      if h : n.isValidChar then some (Char.ofNatAux n h, count + 1) else none

/-- The characters up to the next blank or the closing quote, and whether an escaped line break
ended them. -/
def quotedRun (quote : Char) (text : List Char) : Nat → Cursor → Option (List Char × Bool × Cursor)
  | 0, _ => none
  | fuel + 1, c =>
    if c.endsAt 0 then some (text, false, c)
    else match c.rest with
      | [] => none
      | d :: cs =>
        if d = quote then
          if quote = '\'' ∧ cs.head? = some '\'' then
            quotedRun quote (text ++ ['\'']) fuel (c.skipMany 2)
          else some (text, false, c)
        else if d = '\\' ∧ quote = '"' then
          if cs.head?.any isBreak then some (text, true, c.skip.skipBreak.2)
          else do
            let (e, length) ← escape? cs
            quotedRun quote (text ++ [e]) fuel (c.skipMany (length + 1))
        else quotedRun quote (text ++ [d]) fuel c.skip

/-- Reads a quoted scalar after its opening quote. -/
def quotedScalar (quote : Char) (text : List Char) : Nat → Cursor → Option (List Char × Cursor)
  | 0, _ => none
  | fuel + 1, c =>
    if c.atDocumentMarker || c.atEnd then none
    else do
      let (run, escaped, c) ← quotedRun quote [] (c.rest.length + 1) c
      let text := text ++ run
      if c.peek? = some quote then some (text, c.skip)
      else
        let start := if escaped then Gap.broken [] [] else .none
        let (gap, c) ← skipGap (c.rest.length + 1) 0 start c
        quotedScalar quote (text ++ gap.folded) fuel c

/-- What happens to the line breaks at the end of a block scalar. -/
inductive Chomping where
  | strip | clip | keep

/-- The header of a block scalar: its chomping, and how far it is indented if it says so. -/
def blockHeader (c : Cursor) : Option (Chomping × Option Nat × Cursor) :=
  let chomping? (c : Cursor) : Option Chomping := match c.peek? with
    | some '+' => some .keep
    | some '-' => some .strip
    | _ => none
  let digit? (c : Cursor) : Option Char := c.peek?.filter Char.isDigit
  let value (d : Char) : Option (Option Nat) :=
    if d = '0' then none else some (some (d.toNat - '0'.toNat))
  match chomping? c, digit? c with
  | some chomping, _ =>
    match digit? c.skip with
    | some d => (value d).map fun n => (chomping, n, c.skip.skip)
    | none => some (chomping, none, c.skip)
  | none, some d =>
    match chomping? c.skip with
    | some chomping => (value d).map fun n => (chomping, n, c.skip.skip)
    | none => (value d).map fun n => (.clip, n, c.skip)
  | none, none => some (.clip, none, c)

/-- Passes indentation and empty lines. Without a known indentation, the deepest one met is found
out. -/
def blockBreaks (indent : Option Nat) (deepest : Nat) (breaks : List Char) :
    Nat → Cursor → Option (List Char × Nat × Cursor)
  | 0, _ => none
  | fuel + 1, c =>
    let spaces := (c.rest.takeWhile (· == ' ')).length
    let c := c.skipMany (match indent with
      | some n => min spaces (n - c.column)
      | none => spaces)
    let deepest := max deepest c.column
    if c.peek? = some '\t' ∧ indent.all (c.column < ·) then none
    else if c.atBreak then
      let (text, c) := c.skipBreak
      blockBreaks indent deepest (breaks ++ text) fuel c
    else some (breaks, deepest, c)

/-- Reads the lines of a block scalar that is indented by `indent`. The pending first line break
and the further ones come before the next line. -/
def blockLines (literal : Bool) (indent : Nat) (text first more : List Char) (wasBlank : Bool) :
    Nat → Cursor → Option (List Char × List Char × List Char × Cursor)
  | 0, _ => none
  | fuel + 1, c =>
    if c.column ≠ indent ∨ c.atEnd then some (text, first, more, c)
    else do
      let isBlank := c.has 0 isSpace
      let joint :=
        if !literal && first == ['\n'] && !wasBlank && !isBlank then
          (if more.isEmpty then [' '] else []) ++ more
        else first ++ more
      let line := c.rest.takeWhile (!isBreak ·)
      let (first, c) := (c.skipMany line.length).skipBreak
      let (more, _, c) ← blockBreaks (some indent) 0 [] (c.rest.length + 1) c
      blockLines literal indent (text ++ joint ++ line) first more isBlank fuel c

/-- Reads a block scalar after its indicator, inside a collection indented by `parent`. -/
def blockScalar (literal : Bool) (parent : Int) (c : Cursor) : Option (List Char × Cursor) := do
  let (chomping, increment, c) ← blockHeader c
  let c := (c.skipWhile isSpace).skipComment
  if !(c.atBreak || c.atEnd) then none
  else
    let c := c.skipBreak.2
    let fuel := c.rest.length + 1
    let given := increment.map fun n => if parent < 0 then n else parent.toNat + n
    let (more, deepest, c) ← blockBreaks given 0 [] fuel c
    let indent := given.getD (max deepest (max (parent + 1).toNat 1))
    let (text, first, more, c) ← blockLines literal indent [] [] more false fuel c
    let tail := match chomping with
      | .strip => []
      | .clip => first
      | .keep => first ++ more
    some (text ++ tail, c)

end FeatureTest.Yaml
