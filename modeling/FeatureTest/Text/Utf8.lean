/-!
Text from bytes that need not be well-formed UTF-8.
-/
namespace FeatureTest.Text

/-- A character of which some bytes are read. -/
structure Partial where
  /-- How many bytes are still due. -/
  due : Nat
  /-- What the next byte may be. -/
  low : Nat
  high : Nat
  /-- The bits so far. -/
  value : Nat

/-- What stands where bytes are not well-formed. -/
def replacement : Char := '\uFFFD'

/-- Reads a byte that starts a character. -/
def startChar (byte : Nat) : List Char × Option Partial :=
  let pending (due low high value : Nat) : List Char × Option Partial :=
    ([], some ⟨due, low, high, value⟩)
  if byte < 0x80 then ([Char.ofNat byte], none)
  else if byte < 0xC2 then ([replacement], none)
  else if byte < 0xE0 then pending 1 0x80 0xBF (byte - 0xC0)
  else if byte = 0xE0 then pending 2 0xA0 0xBF 0
  else if byte = 0xED then pending 2 0x80 0x9F 0xD
  else if byte < 0xF0 then pending 2 0x80 0xBF (byte - 0xE0)
  else if byte = 0xF0 then pending 3 0x90 0xBF 0
  else if byte < 0xF4 then pending 3 0x80 0xBF (byte - 0xF0)
  else if byte = 0xF4 then pending 3 0x80 0x8F 4
  else ([replacement], none)

/-- Reads a byte after those that are pending. One that cannot follow them starts anew. -/
def readByte (state : Option Partial) (byte : Nat) : List Char × Option Partial :=
  match state with
  | none => startChar byte
  | some p =>
    if p.low ≤ byte ∧ byte ≤ p.high then
      let value := p.value * 64 + (byte - 0x80)
      if p.due = 1 then ([Char.ofNat value], none)
      else ([], some ⟨p.due - 1, 0x80, 0xBF, value⟩)
    else
      let (chars, next) := startChar byte
      (replacement :: chars, next)

def decodeFrom (state : Option Partial) : List UInt8 → List Char
  | [] => if state.isSome then [replacement] else []
  | byte :: bytes =>
    let (chars, next) := readByte state byte.toNat
    chars ++ decodeFrom next bytes

/-- The text of some bytes. The start of a character that is not completed reads as one
replacement. -/
def decode (bytes : List UInt8) : String := String.ofList (decodeFrom none bytes)

end FeatureTest.Text
