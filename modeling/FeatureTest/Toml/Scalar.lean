import FeatureTest.Document
import FeatureTest.Toml.Value

/-!
The parts of TOML text that hold nothing else: blanks, keys, strings, numbers and dates.
-/
namespace FeatureTest.Toml

/-- Reads from the front of a text, or fails. -/
abbrev Read := StateT (List Char) Option

namespace Read

def fail {α : Type} : Read α := fun _ => none

def peek : Read (Option Char) := return (← get).head?

def skip (n : Nat) : Read Unit := modify (·.drop n)

/-- Passes a word if it comes next, and tells whether it did. -/
def passes (word : List Char) : Read Bool := do
  if word.isPrefixOf (← get) then
    skip word.length
    return true
  else return false

def expect (word : List Char) : Read Unit := do
  if !(← passes word) then fail

/-- Passes the characters that satisfy `p` and gives them. -/
def takeWhile (p : Char → Bool) : Read (List Char) := do
  let cs := (← get).takeWhile p
  skip cs.length
  return cs

def spaces : Read Unit := discard (takeWhile fun c => c == ' ' || c == '\t')

/-- What text may hold apart from line breaks. -/
def isPrintable (c : Char) : Bool := c == '\t' || (0x20 ≤ c.toNat && c.toNat != 0x7F)

def comment : Read Unit := do
  if (← peek) = some '#' then discard (takeWhile isPrintable)

/-- Passes a line break if one comes next, and tells whether it did. -/
def lineBreak : Read Bool := do
  if ← passes ['\n'] then return true else passes ['\r', '\n']

/-- The end of a line, after blanks and a comment. -/
def lineEnd : Read Unit := do
  spaces
  comment
  if (← get).isEmpty then return
  if !(← lineBreak) then fail

/-- Passes blanks, comments and line breaks. -/
def blanks : Nat → Read Unit
  | 0 => return
  | fuel + 1 => do
    spaces
    comment
    if ← lineBreak then blanks fuel

/-! ### Strings -/

/-- The character that an escape gives by its number. -/
def numbered (digits : Nat) : Read (List Char) := do
  let cs := (← get).take digits
  skip digits
  match Scalar.numeral? 16 cs with
  | some n => if cs.length = digits ∧ n.isValidChar then return [Char.ofNat n] else fail
  | none => fail

def escape : Read (List Char) := do
  let c ← peek
  skip 1
  match c with
  | some 'b' => return [Char.ofNat 8]
  | some 't' => return ['\t']
  | some 'n' => return ['\n']
  | some 'f' => return [Char.ofNat 12]
  | some 'r' => return ['\r']
  | some '"' => return ['"']
  | some '\\' => return ['\\']
  | some 'u' => numbered 4
  | some 'U' => numbered 8
  | _ => fail

/-- The rest of a quoted string; escapes count within double quotes only. -/
def shortString (quote : Char) (text : List Char) : Nat → Read String
  | 0 => fail
  | fuel + 1 => do
    let some c ← peek | fail
    skip 1
    if c = quote then return String.ofList text
    else if c = '\\' ∧ quote = '"' then shortString quote (text ++ (← escape)) fuel
    else if isPrintable c then shortString quote (text ++ [c]) fuel
    else fail

/-- Passes the blanks after a backslash that ends a line; there must be a line break in them. -/
def continuation (fuel : Nat) : Read Unit := do
  spaces
  if !(← lineBreak) then fail
  go fuel
where
  go : Nat → Read Unit
    | 0 => return
    | fuel + 1 => do
      spaces
      if ← lineBreak then go fuel

/-- The rest of a string between triple quotes. Up to two more quotes may stand before its end. -/
def longString (quote : Char) (text : List Char) : Nat → Read String
  | 0 => fail
  | fuel + 1 => do
    let quotes := ((← get).takeWhile (· == quote)).length
    if 3 ≤ quotes then
      if 5 < quotes then fail
      skip quotes
      return String.ofList (text ++ List.replicate (quotes - 3) quote)
    else if ← lineBreak then longString quote (text ++ ['\n']) fuel
    else
      let some c ← peek | fail
      skip 1
      if c = '\\' ∧ quote = '"' then
        if (← peek).any fun d => d == ' ' || d == '\t' || d == '\n' || d == '\r' then
          continuation fuel
          longString quote text fuel
        else longString quote (text ++ (← escape)) fuel
      else if isPrintable c then longString quote (text ++ [c]) fuel
      else fail

/-- A string of any kind. A line break right after triple quotes is dropped. -/
def string (quote : Char) (fuel : Nat) : Read String := do
  if ← passes [quote, quote, quote] then
    discard lineBreak
    longString quote [] fuel
  else
    skip 1
    shortString quote [] fuel

/-! ### Keys -/

def isKeyChar (c : Char) : Bool := c.isAlphanum || c == '_' || c == '-'

def isQuote (c : Char) : Bool := c == '"' || c == '\''

def simpleKey (fuel : Nat) : Read String := do
  match ← peek with
  | some c =>
    if isQuote c then
      skip 1
      shortString c [] fuel
    else
      let cs ← takeWhile isKeyChar
      if cs.isEmpty then fail else return String.ofList cs
  | none => fail

/-- Keys between dots. -/
def dottedKey : Nat → Read (List String)
  | 0 => fail
  | fuel + 1 => do
    spaces
    let key ← simpleKey (fuel + 1)
    spaces
    if ← passes ['.'] then return key :: (← dottedKey fuel) else return [key]

/-! ### Numbers, dates and words -/

/-- Digits of a base, between which single underscores may stand. -/
def digits? (base : Nat) (cs : List Char) : Option Nat :=
  if cs.head? == some '_' || cs.getLast? == some '_' || hasDouble cs then none
  else Scalar.numeral? base (cs.filter (· ≠ '_'))
where
  hasDouble : List Char → Bool
    | '_' :: '_' :: _ => true
    | _ :: rest => hasDouble rest
    | [] => false

/-- Decimal digits without a leading zero. -/
def decimal? (cs : List Char) : Option Nat :=
  match cs with
  | '0' :: _ :: _ => none
  | _ => digits? 10 cs

/-- A sign and what it stands before. -/
def signed (cs : List Char) : Bool × List Char :=
  match cs with
  | '+' :: rest => (false, rest)
  | '-' :: rest => (true, rest)
  | _ => (false, cs)

def integer? (cs : List Char) : Option Int :=
  match cs with
  | '0' :: 'x' :: ds => (digits? 16 ds).map Int.ofNat
  | '0' :: 'o' :: ds => (digits? 8 ds).map Int.ofNat
  | '0' :: 'b' :: ds => (digits? 2 ds).map Int.ofNat
  | _ =>
    let (negative, ds) := signed cs
    (decimal? ds).map fun n => if negative then -n else n

def isExponent (cs : List Char) : Bool := (digits? 10 (signed cs).2).isSome

/-- The text on both sides of the first character that satisfies `p`, if there is one. -/
def splitAt? (p : Char → Bool) (cs : List Char) : Option (List Char × List Char) :=
  match cs.span (!p ·) with
  | (before, _ :: after) => some (before, after)
  | _ => none

def isFloat (cs : List Char) : Bool :=
  let (_, ds) := signed cs
  if ds == "inf".toList || ds == "nan".toList then true
  else
    let (mantissa, exponent) := match splitAt? (fun c => c == 'e' || c == 'E') ds with
      | some (m, e) => (m, some e)
      | none => (ds, none)
    match splitAt? (· == '.') mantissa with
    | some (whole, fraction) =>
      (decimal? whole).isSome && (digits? 10 fraction).isSome && exponent.all isExponent
    | none => (decimal? mantissa).isSome && exponent.any isExponent

/-- A number of just so many digits, within bounds. -/
def isField (width low high : Nat) (cs : List Char) : Bool :=
  cs.length == width && cs.all Char.isDigit &&
    (Scalar.numeral? 10 cs).any fun n => low ≤ n && n ≤ high

def isDate (cs : List Char) : Bool :=
  match cs.splitOn '-' with
  | [year, month, day] => isField 4 0 9999 year && isField 2 1 12 month && isField 2 1 31 day
  | _ => false

def isTime (cs : List Char) : Bool :=
  let (clock, fraction) := match splitAt? (· == '.') cs with
    | some (c, f) => (c, some f)
    | none => (cs, none)
  let clockOk := match clock.splitOn ':' with
    | [hour, minute, second] => isField 2 0 23 hour && isField 2 0 59 minute && isField 2 0 60 second
    | _ => false
  clockOk && fraction.all fun f => !f.isEmpty && f.all Char.isDigit

def isOffset (cs : List Char) : Bool :=
  match cs.splitOn ':' with
  | [hour, minute] => isField 2 0 23 hour && isField 2 0 59 minute
  | _ => false

/-- A time with or without its distance from the standard one. -/
def isZonedTime (cs : List Char) : Bool :=
  if cs.getLast? == some 'Z' || cs.getLast? == some 'z' then isTime cs.dropLast
  else match splitAt? (fun c => c == '+' || c == '-') cs with
    | some (time, offset) => isTime time && isOffset offset
    | none => isTime cs

def isMoment (cs : List Char) : Bool :=
  isTime cs || isDate (cs.take 10) &&
    match cs.drop 10 with
    | [] => true
    | c :: time => (c == 'T' || c == 't' || c == ' ') && isZonedTime time

def isBareChar (c : Char) : Bool := isKeyChar c || c == '+' || c == '.' || c == ':'

/-- A value that is written without quotes or brackets. -/
def bare : Read Value := do
  let first ← takeWhile isBareChar
  let rest ← get
  let isSpacedTime := isDate first && (rest.take 1 == [' ']) && ((rest.drop 1).head?).any Char.isDigit
  let cs ← if isSpacedTime then do
      skip 1
      pure (first ++ [' '] ++ (← takeWhile isBareChar))
    else pure first
  if cs == "true".toList then return .bool true
  else if cs == "false".toList then return .bool false
  else match integer? cs with
    | some n => return .integer n
    | none => if isFloat cs || isMoment cs then return .other else fail

end Read
end FeatureTest.Toml
