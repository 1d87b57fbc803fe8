import FeatureTest.Yaml.Decimal
import FeatureTest.Yaml.Value

/-!
What a bare scalar is when nothing says what it should be: null, a truth value, a number or text.
-/
namespace FeatureTest.Yaml

/-- A bare integer from `-half` up to, but without, twice `half`. -/
def integer? (half : Nat) (s : String) : Option Int :=
  match s.toList with
  | '-' :: cs =>
    if cs.head? = some '+' then none
    else ((Scalar.plainNatural? cs).filter (· ≤ half)).map fun n => -(n : Int)
  | cs =>
    if cs.head? = some '+' ∧ cs.tail.head? = some '+' then none
    else ((Scalar.plainNatural? cs).filter (· < 2 * half)).map fun n => (n : Int)

/-- A bare integer of 64 bits. -/
def shortInteger? (s : String) : Option Int := integer? 0x8000000000000000 s

/-- Whether a text is an integer of 128 bits and of no fewer. No value holds such a number. -/
def isLongInteger (s : String) : Bool :=
  (shortInteger? s).isNone && (integer? 0x80000000000000000000000000000000 s).isSome

/-- The numbers that are not finite. -/
def notFinite? : String → Option String
  | ".inf" | ".Inf" | ".INF" | "+.inf" | "+.Inf" | "+.INF" => some ".inf"
  | "-.inf" | "-.Inf" | "-.INF" => some "-.inf"
  | ".nan" | ".NaN" | ".NAN" => some ".nan"
  | _ => none

/-- What a bare scalar is. -/
def plainValue {Tag : Type} (s : String) : Value Tag :=
  if s.isEmpty || Scalar.isPlainNull s then .null
  else match Scalar.plainBool? s with
    | some b => .bool b
    | none =>
      match shortInteger? s with
      | some n => .integer n
      | none =>
        match notFinite? s with
        | some t => .float t
        | none =>
          match Decimal.ofText? s with
          | some d => if d.toFloat.isFinite then .float d.text else .text s
          | none => .text s

/-- Whether a text would read as something else if it were written bare. -/
def isAmbiguous (s : String) : Bool :=
  match (plainValue s : Value) with
  | .text _ => Scalar.hasLeadingZero (match s.toList with
    | '-' :: cs | '+' :: cs | cs => cs)
  | _ => true

end FeatureTest.Yaml
