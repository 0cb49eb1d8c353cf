import QueryBinding.Document
import QueryBinding.Text.Digits

/-!
# JSON numbers

A whole number that fits into sixty-four bits is read as it is.  Any other number
is read in floating point: as many leading digits as sixty-four bits hold make up
the significand, which is rounded once and then multiplied or divided by a rounded
power of ten, so that the result may miss the nearest number by a last place.
-/

namespace QueryBinding.Json

structure NumberLiteral where
  negative : Bool
  whole : List Char
  fraction : Option (List Char)
  exponent : Option (Bool × List Char)
  deriving DecidableEq, Repr

namespace NumberLiteral

def greatest : Nat :=
  Nat.pow 2 64 - 1

def gather (significand : Nat) : List Char → Nat × List Char
  | [] => (significand, [])
  | c :: rest =>
      let next := 10 * significand + Text.digitValue c
      if next ≤ greatest then gather next rest else (significand, c :: rest)

def powerOfTen (n : Nat) : Float :=
  .ofScientific 1 false n

/--
Divide by `10 ^ n`, in two steps where the power is out of range.  A significand
vanishes in the second step, so no third one is needed.
-/
def scaleDown (n : Nat) (x : Float) : Float :=
  if n ≤ 308 then x / powerOfTen n
  else x / powerOfTen 308 / powerOfTen (min (n - 308) 308)

def scale (significand : Nat) (exponent : Int) : Option Float :=
  let x := (UInt64.ofNat significand).toFloat
  if exponent < 0 then some (scaleDown exponent.natAbs x)
  else if exponent ≤ 308 then
    let y := x * powerOfTen exponent.toNat
    if y.isInf then none else some y
  else if significand = 0 then some x
  else none

def toReal? (literal : NumberLiteral) : Option Binary64 :=
  let (significand, dropped) := gather 0 literal.whole
  let fraction := literal.fraction.getD []
  let (significand, unused) := gather significand fraction
  let shift : Int := match literal.exponent with
    | none => 0
    | some (negative, digits) =>
        if negative then -(Text.decimalValue digits : Int) else Text.decimalValue digits
  let exponent := shift + dropped.length - (fraction.length - unused.length : Nat)
  (scale significand exponent).map fun x => .ofFloat (if literal.negative then -x else x)

def toDocument (literal : NumberLiteral) : Document :=
  let whole := Text.decimalValue literal.whole
  if literal.fraction.isNone && literal.exponent.isNone && !literal.negative &&
      whole ≤ greatest then
    .integer whole
  else if literal.fraction.isNone && literal.exponent.isNone && literal.negative && 0 < whole &&
      whole ≤ Nat.pow 2 63 then
    .integer (-whole)
  else
    match literal.toReal? with
    | some x => .real x
    | none => .unreadable

end NumberLiteral

end QueryBinding.Json
