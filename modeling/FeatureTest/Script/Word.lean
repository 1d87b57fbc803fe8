/-!
Words of a script: texts and parameters, which stand side by side and are quoted or not.
-/
namespace FeatureTest.Script

inductive Piece where
  /-- Text as it stands; within quotes it is no pattern. -/
  | text (text : List Char) (quoted : Bool)
  /-- The value of a parameter, changed as its modifier says; within quotes it is not split. -/
  | parameter (name modifier : List Char) (quoted : Bool)
  deriving DecidableEq, Repr

abbrev Word := List Piece

def isNameChar (c : Char) : Bool := c.isAlphanum || c == '_'

def isSpecialParameter (c : Char) : Bool := c.isDigit || "*@#?$!-".toList.contains c

/-- A parameter's name at the front of a text, and what follows. -/
def parameterName? (cs : List Char) : Option (List Char × List Char) :=
  match cs with
  | c :: rest =>
    if isSpecialParameter c then some ([c], rest)
    else if isNameChar c then some (cs.takeWhile isNameChar, cs.dropWhile isNameChar)
    else none
  | [] => none

/-- The parameter after a dollar, and what follows. Between braces a modifier may come after the
name. -/
def parameter? (quoted : Bool) (cs : List Char) : Option (Piece × List Char) :=
  match cs with
  | '\x7b' :: rest => do
    let (name, modifier) ← parameterName? (rest.takeWhile (· ≠ '\x7d'))
    match rest.dropWhile (· ≠ '\x7d') with
    | _ :: after => return (.parameter name modifier quoted, after)
    | [] => none
  | _ => (parameterName? cs).map fun (name, rest) => (.parameter name [] quoted, rest)

/-- Whether a character ends a word. -/
def endsWord (c : Char) : Bool := " \t\n;|()<>&".toList.contains c

/-- Reads a word up to a blank or an operator. `inQuotes` holds between double quotes. -/
def readWord (inQuotes : Bool) (word : Word) : Nat → List Char → Option (Word × List Char)
  | 0, _ => none
  | fuel + 1, cs =>
    let add (piece : Piece) : Word := word ++ [piece]
    match cs with
    | [] => if inQuotes then none else some (word, [])
    | '"' :: rest => readWord (!inQuotes) (add (.text [] true)) fuel rest
    | '`' :: _ | '$' :: '(' :: _ => none
    | '$' :: rest =>
      match parameter? inQuotes rest with
      | some (piece, rest) => readWord inQuotes (add piece) fuel rest
      | none => readWord inQuotes (add (.text ['$'] inQuotes)) fuel rest
    | '\\' :: '\n' :: rest => readWord inQuotes word fuel rest
    | '\\' :: c :: rest =>
      let text := if inQuotes && !(['"', '\\', '$', '`'].contains c) then ['\\', c] else [c]
      readWord inQuotes (add (.text text true)) fuel rest
    | c :: rest =>
      if inQuotes then readWord inQuotes (add (.text [c] true)) fuel rest
      else if c = '\'' then
        match rest.dropWhile (· ≠ '\'') with
        | _ :: after => readWord false (add (.text (rest.takeWhile (· ≠ '\'')) true)) fuel after
        | [] => none
      else if endsWord c then some (word, cs)
      else readWord false (add (.text [c] false)) fuel rest

namespace Word

/-- The word that a text is without quotes. -/
def ofText (text : String) : Word := text.toList.map fun c => .text [c] false

/-- A word's characters, if it has neither quotes nor parameters. -/
def plainText? (w : Word) : Option (List Char) :=
  (w.mapM fun (piece : Piece) => match piece with
    | .text t false => some t
    | _ => none).map List.flatten

/-- The name before an equals sign and the value after it. -/
def assignment? (w : Word) : Option (List Char × Word) := do
  let isNamePiece (piece : Piece) : Bool :=
    piece matches .text [_] false && piece != .text ['='] false
  let name ← plainText? (w.takeWhile isNamePiece)
  match w.dropWhile isNamePiece with
  | .text ['='] false :: value =>
    if name.all isNameChar && name.head?.any (!·.isDigit) then return (name, value) else none
  | _ => none

end Word

/-! ### Patterns -/

inductive Mark where
  | char (c : Char)
  | anyChar
  | anyText
  deriving DecidableEq, Repr

/-- What a text asks for as a pattern. -/
def marksOf (cs : List Char) : List Mark :=
  cs.map fun c => if c = '*' then .anyText else if c = '?' then .anyChar else .char c

/-- The suffixes of a text, from itself on. -/
def suffixes : List Char → List (List Char)
  | [] => [[]]
  | c :: cs => (c :: cs) :: suffixes cs

def isMatch : List Mark → List Char → Bool
  | [], cs => cs.isEmpty
  | .char c :: marks, d :: cs => c == d && isMatch marks cs
  | .anyChar :: marks, _ :: cs => isMatch marks cs
  | .anyText :: marks, cs => (suffixes cs).any (isMatch marks)
  | _ :: _, [] => false

/-- The lengths from a text's start up to which it matches, in order. -/
def matchLengths (marks : List Mark) (cs : List Char) : List Nat :=
  (List.range (cs.length + 1)).filter fun n => isMatch marks (cs.take n)

/-- A text without what matches at its start, as little as can be or as much. -/
def dropMatch (longest : Bool) (pattern cs : List Char) : List Char :=
  let lengths := matchLengths (marksOf pattern) cs
  cs.drop ((if longest then lengths.getLast? else lengths.head?).getD 0)

/-- A text without what matches at its end. -/
def dropMatchAtEnd (longest : Bool) (pattern cs : List Char) : List Char :=
  let isDropped (n : Nat) : Bool := isMatch (marksOf pattern) (cs.drop n)
  let starts := (List.range (cs.length + 1)).filter isDropped
  cs.take ((if longest then starts.head? else starts.getLast?).getD cs.length)

/-- A parameter's value as its modifier changes it. -/
def modified (modifier : List Char) (value : Option String) : String :=
  let text := value.getD ""
  let cut (f : List Char → List Char) : String := String.ofList (f text.toList)
  match modifier with
  | ':' :: '-' :: w | ':' :: '=' :: w => if text.isEmpty then String.ofList w else text
  | '-' :: w | '=' :: w => value.getD (String.ofList w)
  | ':' :: '+' :: w => if text.isEmpty then "" else String.ofList w
  | '+' :: w => if value.isSome then String.ofList w else ""
  | '#' :: '#' :: p => cut (dropMatch true p)
  | '#' :: p => cut (dropMatch false p)
  | '%' :: '%' :: p => cut (dropMatchAtEnd true p)
  | '%' :: p => cut (dropMatchAtEnd false p)
  | _ => text

end FeatureTest.Script
