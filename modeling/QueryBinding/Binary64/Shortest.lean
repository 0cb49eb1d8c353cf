import QueryBinding.Binary64
import QueryBinding.Text.Digits

/-!
# Shortest decimals

Among the decimals that read back to a given binary64 number, those with the
fewest digits are chosen, and of these the one nearest to the number.  Where two
are equally near, the notation at hand decides between them.  All comparisons are
made between naturals, on a decimal grid fine enough to hold the number and the two
ends of its rounding interval exactly.
-/

namespace QueryBinding.Binary64

structure Decimal where
  digits : Nat
  exponent : Int
  deriving DecidableEq, Repr

inductive Tie where
  | up
  | even
  deriving DecidableEq, Repr

/--
The reals that round to a positive number, on a decimal grid: the number, the two
ends of its interval, whether the ends belong to it, and the exponent of the grid.
-/
structure RoundingInterval where
  value : Nat
  low : Nat
  high : Nat
  closed : Bool
  exponent : Int
  deriving DecidableEq, Repr

/--
The rounding interval of a finite positive number.  Its ends lie half a unit of
the last place away from it, the lower end only a quarter where the number below
has a smaller exponent; they belong to the interval when the significand is even.
-/
def roundingInterval (x : Binary64) : RoundingInterval :=
  let m := x.significand
  let below := if x.fraction = 0 ∧ 1 < x.exponentField then 1 else 2
  let quarter := x.exponent - 2
  let scale := if quarter < 0 then Nat.pow 5 (-quarter).toNat else Nat.pow 2 quarter.toNat
  { value := 4 * m * scale
    low := (4 * m - below) * scale
    high := (4 * m + 2) * scale
    closed := m % 2 == 0
    exponent := min quarter 0 }

namespace RoundingInterval

def contains (interval : RoundingInterval) (point : Nat) : Bool :=
  if interval.closed then interval.low ≤ point && point ≤ interval.high
  else interval.low < point && point < interval.high

def prefersUpper (tie : Tie) (value lower step : Nat) : Bool :=
  let middle := (2 * lower + 1) * step
  middle < 2 * value || middle == 2 * value && (tie == .up || lower % 2 == 1)

/--
A decimal that reads back and stands on the coarser grid of step `10 ^ drop`: one
of the number's two neighbours there, the nearer if both read back.
-/
def onGrid? (tie : Tie) (interval : RoundingInterval) (drop : Nat) : Option Decimal :=
  let step := Nat.pow 10 drop
  let lower := interval.value / step
  let upper := lower + 1
  let exponent := interval.exponent + drop
  if interval.contains (upper * step) &&
      (!interval.contains (lower * step) || prefersUpper tie interval.value lower step) then
    some ⟨upper, exponent⟩
  else if interval.contains (lower * step) then
    some ⟨lower, exponent⟩
  else
    none

def shortest (tie : Tie) (interval : RoundingInterval) : Decimal :=
  let places := (Text.decimalDigits interval.value).length
  match (List.range places).findSome? fun kept => interval.onGrid? tie (places - 1 - kept) with
  | some decimal => decimal
  | none => ⟨interval.value, interval.exponent⟩

end RoundingInterval

def Decimal.strip (d : Decimal) : List Char × Int :=
  let digits := Text.decimalDigits d.digits
  let kept := Text.dropTrailingZeros digits
  (kept, d.exponent + (digits.length - kept.length : Nat))

def shortestDigits (tie : Tie) (x : Binary64) : List Char × Int :=
  (x.roundingInterval.shortest tie).strip

/--
Digits times a power of ten in positional notation: no exponent, a point only
before a fraction, and a zero before a leading point.
-/
def positional (digits : List Char) (exponent : Int) : List Char :=
  if 0 ≤ exponent then
    digits ++ List.replicate exponent.toNat '0'
  else
    let places := (-exponent).toNat
    let padded := Text.padZeros (places + 1) digits
    padded.take (padded.length - places) ++ '.' :: padded.drop (padded.length - places)

/--
The text of a number: shortest digits, the greater of two equally near, in
positional notation; zeros with their sign.
-/
def render (x : Binary64) : String :=
  if x.isNaN then "NaN"
  else
    let magnitude :=
      if !x.isFinite then "inf".toList
      else if x.isZero then ['0']
      else
        let (digits, exponent) := x.shortestDigits .up
        positional digits exponent
    String.ofList (if x.isNegative then '-' :: magnitude else magnitude)

end QueryBinding.Binary64
