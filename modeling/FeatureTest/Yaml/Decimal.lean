import FeatureTest.Document

/-!
Decimal numbers: read from text, rounded to the nearest floating-point number, and written with
as few digits as read back.
-/
namespace FeatureTest.Yaml

/-- A decimal number: its digits, and the power of ten they are multiplied by. -/
structure Decimal where
  negative : Bool
  digits : Nat
  exponent : Int

namespace Decimal

def isDigit (c : Char) : Bool := '0' ≤ c && c ≤ '9'

/-- The exponent of a number, after its mark. -/
def exponent? (cs : List Char) : Option Int :=
  match cs with
  | '-' :: ds => (Scalar.numeral? 10 ds).map fun n => -(n : Int)
  | '+' :: ds | ds => (Scalar.numeral? 10 ds).map fun n => (n : Int)

/-- A bare decimal number with a point or an exponent. -/
def ofText? (s : String) : Option Decimal := do
  let cs := s.toList
  let (negative, unsigned) := match cs with
    | '-' :: rest => (true, rest)
    | '+' :: rest => (false, rest)
    | _ => (false, cs)
  if Scalar.hasLeadingZero unsigned then none
  else
    let whole := unsigned.takeWhile isDigit
    let rest := unsigned.drop whole.length
    let (fraction, rest) := match rest with
      | '.' :: ds => (ds.takeWhile isDigit, ds.dropWhile isDigit)
      | _ => ([], rest)
    let digits ← Scalar.numeral? 10 (whole ++ fraction)
    let exponent ← match rest with
      | [] => some 0
      | 'e' :: e | 'E' :: e => exponent? e
      | _ => none
    return ⟨negative, digits, exponent - fraction.length⟩

/-- The nearest floating-point number. -/
def toFloat (d : Decimal) : Float :=
  let point : Int := (toString d.digits).length + d.exponent
  let f :=
    if d.digits = 0 ∨ point < -400 then 0
    else if 400 < point then 1 / 0
    else Float.ofScientific d.digits (d.exponent < 0) d.exponent.natAbs
  if d.negative then -f else f

/-- The two decimals of `n` digits around a positive number `num / den`, the nearer one first and
of two equally near the even one. `point` is the number of its digits before the point. -/
def around (num den : Nat) (point : Int) (n : Nat) : List Decimal :=
  let exponent := point - n
  let num := num * Nat.pow 10 (-exponent).toNat
  let den := den * Nat.pow 10 exponent.toNat
  let below : Decimal := ⟨false, num / den, exponent⟩
  let above : Decimal := ⟨false, num / den + 1, exponent⟩
  let twice := 2 * (num % den)
  if twice < den || (twice == den && below.digits % 2 == 0) then [below, above] else [above, below]

/-- The value of a positive floating-point number, as a fraction. -/
def fraction (f : Float) : Nat × Nat :=
  let bits := f.toBits.toNat
  let significand := bits % 0x10000000000000
  let exponent := bits / 0x10000000000000 % 0x800
  let significand := if exponent = 0 then significand else significand + 0x10000000000000
  (significand * Nat.pow 2 (max exponent 1 - 1075), Nat.pow 2 (1075 - max exponent 1))

/-- The decimal with the fewest digits that reads back as a positive floating-point number. -/
def ofFloat (f : Float) : Decimal :=
  let (num, den) := fraction f
  -- No number has its first digit as far as 400 places after the point.
  let point : Int := (toString (num * Nat.pow 10 400 / den)).length - 400
  let candidates := (List.range 18).flatMap (around num den point)
  (candidates.find? fun d => d.toFloat == f).getD ⟨false, 0, 0⟩

/-- The text of a number: with a point, or outside a middle range with an exponent. -/
def text (d : Decimal) : String :=
  let f := d.toFloat
  let d : Decimal :=
    if f == 0 then ⟨d.negative, 0, 0⟩ else { ofFloat f.abs with negative := d.negative }
  let digits := (toString d.digits).toList
  let point : Int := digits.length + d.exponent
  let zeros (n : Nat) : List Char := List.replicate n '0'
  let body : List Char :=
    if d.digits = 0 then ['0', '.', '0']
    else if 0 ≤ d.exponent ∧ point ≤ 16 then digits ++ zeros d.exponent.toNat ++ ['.', '0']
    else if 0 < point ∧ point ≤ 16 then
      digits.take point.toNat ++ ['.'] ++ digits.drop point.toNat
    else if -5 < point ∧ point ≤ 0 then ['0', '.'] ++ zeros point.natAbs ++ digits
    else
      let mantissa := digits.take 1 ++ (if digits.length > 1 then '.' :: digits.drop 1 else [])
      mantissa ++ 'e' :: (toString (point - 1)).toList
  String.ofList ((if d.negative then ['-'] else []) ++ body)

end Decimal
end FeatureTest.Yaml
