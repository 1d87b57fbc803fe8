import FeatureTest.Document

/-!
What `echo` and `printf` print: escapes and formats as bytes.
-/
namespace FeatureTest.Script

def isOctal (c : Char) : Bool := '0' ≤ c && c ≤ '7'

def bytesOf (cs : List Char) : List UInt8 := (String.ofList cs).toUTF8.toList

/-- The character that an escape with a letter stands for. -/
def escape? : Char → Option Char
  | 'a' => some (Char.ofNat 7)
  | 'b' => some (Char.ofNat 8)
  | 'f' => some (Char.ofNat 12)
  | 'n' => some '\n'
  | 'r' => some '\r'
  | 't' => some '\t'
  | 'v' => some (Char.ofNat 11)
  | '\\' => some '\\'
  | _ => none

/-- Reads an escape after its backslash: its bytes, and what follows. Of octal digits there may be
three, and a zero before them if `spare`. -/
def readEscape (spare : Bool) : List Char → List UInt8 × List Char
  | [] => (bytesOf ['\\'], [])
  | c :: rest =>
    let start := if spare && c == '0' then rest else c :: rest
    let digits := (start.take 3).takeWhile isOctal
    if isOctal c then
      ([((Scalar.numeral? 8 digits).getD 0).toUInt8], start.drop digits.length)
    else match escape? c with
      | some d => (bytesOf [d], rest)
      | none => (bytesOf ['\\', c], rest)

/-- What a text with escapes prints, and whether an escape ended it. -/
def escaped : Nat → List Char → List UInt8 × Bool
  | 0, _ => ([], false)
  | fuel + 1, cs =>
    match cs with
    | [] => ([], false)
    | '\\' :: 'c' :: _ => ([], true)
    | '\\' :: rest =>
      let (bytes, rest) := readEscape true rest
      (escaped fuel rest).map (bytes ++ ·) id
    | c :: rest => (escaped fuel rest).map (bytesOf [c] ++ ·) id

/-- What `echo` prints for its arguments. -/
def echoed (arguments : List String) : List UInt8 :=
  let (newline, arguments) := match arguments with
    | "-n" :: rest => ([], rest)
    | _ => (['\n'], arguments)
  let cs := (" ".intercalate arguments).toList ++ newline
  (escaped (cs.length + 1) cs).1

/-! ### Formats -/

/-- A place in a format that takes an argument. -/
structure Slot where
  onLeft : Bool
  zeros : Bool
  width : Nat
  kind : Char

/-- Reads a slot after its percent sign. -/
def slot? (cs : List Char) : Option (Slot × List Char) :=
  let flags := cs.takeWhile fun c => c == '-' || c == '0'
  let rest := cs.drop flags.length
  let width := rest.takeWhile Char.isDigit
  match rest.drop width.length with
  | kind :: rest =>
    if "sdiucxXob".toList.contains kind then
      some (⟨flags.contains '-', flags.contains '0', (Scalar.numeral? 10 width).getD 0, kind⟩, rest)
    else none
  | [] => none

def integerOf (text : String) : Int :=
  match text.toList with
  | '-' :: ds => -((Scalar.numeral? 10 ds).getD 0 : Nat)
  | ds => ((Scalar.numeral? 10 ds).getD 0 : Nat)

/-- An argument as its slot shows it; without one it is empty or zero. -/
def Slot.show (slot : Slot) (argument : Option String) : List UInt8 :=
  let text := argument.getD ""
  let digits (base : Nat) : List Char := Nat.toDigits base (integerOf text).toNat
  let bytes := match slot.kind with
    | 's' => bytesOf text.toList
    | 'c' => bytesOf (text.toList.take 1)
    | 'b' => (escaped (text.length + 1) text.toList).1
    | 'x' => bytesOf (digits 16)
    | 'X' => bytesOf ((digits 16).map Char.toUpper)
    | 'o' => bytesOf (digits 8)
    | _ => bytesOf (toString (integerOf text)).toList
  let missing := slot.width - bytes.length
  if slot.onLeft then bytes ++ bytesOf (List.replicate missing ' ')
  else
    let isNumber := !("scb".toList.contains slot.kind)
    bytesOf (List.replicate missing (if slot.zeros && isNumber then '0' else ' ')) ++ bytes

/-- What a format prints, and the arguments that it leaves. -/
def formatted (arguments : List String) : Nat → List Char → List UInt8 × List String
  | 0, _ => ([], arguments)
  | fuel + 1, cs =>
    match cs with
    | [] => ([], arguments)
    | '%' :: '%' :: rest => (formatted arguments fuel rest).map (bytesOf ['%'] ++ ·) id
    | '%' :: rest =>
      match slot? rest with
      | some (slot, rest) =>
        (formatted arguments.tail fuel rest).map (slot.show arguments.head? ++ ·) id
      | none => (formatted arguments fuel rest).map (bytesOf ['%'] ++ ·) id
    | '\\' :: rest =>
      let (bytes, rest) := readEscape false rest
      (formatted arguments fuel rest).map (bytes ++ ·) id
    | c :: rest => (formatted arguments fuel rest).map (bytesOf [c] ++ ·) id

/-- Uses a format until no argument is left, or it takes none. -/
def printed (format : List Char) (arguments : List String) : Nat → List UInt8
  | 0 => []
  | fuel + 1 =>
    let (bytes, left) := formatted arguments (format.length + 1) format
    if left.isEmpty ∨ left.length = arguments.length then bytes
    else bytes ++ printed format left fuel

end FeatureTest.Script
