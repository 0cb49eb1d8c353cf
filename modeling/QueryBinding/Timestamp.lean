import QueryBinding.Calendar
import QueryBinding.Text.Blank
import QueryBinding.Text.Digits

/-!
# Timestamps

A date of the proleptic Gregorian calendar and a time of day without a zone.  A
leap second is the second before it with a nanosecond part of at least 10⁹, and
is written as second 60.
-/

namespace QueryBinding

/-- Whether numbers denote a moment; only the last second of a minute can be a leap second. -/
def IsMoment (year : Int) (month day hour minute second nanosecond : Nat) : Prop :=
  (-262143 ≤ year ∧ year ≤ 262142) ∧ Calendar.isDate year month day = true ∧
    hour ≤ 23 ∧ minute ≤ 59 ∧ second ≤ 59 ∧
    nanosecond < (if second = 59 then 2000000000 else 1000000000)

instance (year : Int) (month day hour minute second nanosecond : Nat) :
    Decidable (IsMoment year month day hour minute second nanosecond) := by
  unfold IsMoment
  infer_instance

structure Timestamp where
  year : Int
  month : Nat
  day : Nat
  hour : Nat
  minute : Nat
  second : Nat
  nanosecond : Nat
  isMoment : IsMoment year month day hour minute second nanosecond
  deriving DecidableEq, Repr

namespace Timestamp

def of? (year : Int) (month day hour minute second nanosecond : Nat) : Option Timestamp :=
  if h : IsMoment year month day hour minute second nanosecond then
    some ⟨year, month, day, hour, minute, second, nanosecond, h⟩
  else none

/-! ## Writing -/

def renderYear (year : Int) : List Char :=
  let digits := Text.padZeros 4 (Text.decimalDigits year.natAbs)
  if 0 ≤ year ∧ year ≤ 9999 then digits
  else (if year < 0 then '-' else '+') :: digits

def renderFraction (nanosecond : Nat) : List Char :=
  let n := nanosecond % 1000000000
  if n = 0 then []
  else if n % 1000000 = 0 then '.' :: Text.padZeros 3 (Text.decimalDigits (n / 1000000))
  else if n % 1000 = 0 then '.' :: Text.padZeros 6 (Text.decimalDigits (n / 1000))
  else '.' :: Text.padZeros 9 (Text.decimalDigits n)

def renderWith (separator : Char) (t : Timestamp) : String :=
  String.ofList (renderYear t.year ++ '-' :: Text.twoDigits t.month
    ++ '-' :: Text.twoDigits t.day ++ separator :: Text.twoDigits t.hour
    ++ ':' :: Text.twoDigits t.minute
    ++ ':' :: Text.twoDigits (t.second + t.nanosecond / 1000000000)
    ++ renderFraction t.nanosecond)

/-! ## Reading -/

/-- Read at least one and at most `most` digits, blanks before them allowed. -/
def readNumber? (most : Nat) (cs : List Char) : Option (Nat × List Char) :=
  let cs := Text.trimLeft cs
  let digits := (cs.take most).takeWhile Text.isDigit
  if digits.isEmpty then none else some (Text.decimalValue digits, cs.drop digits.length)

/-- Read a year: at most four digits, or a sign and any number of digits. -/
def readYear? (cs : List Char) : Option (Int × List Char) :=
  match Text.trimLeft cs with
  | '-' :: rest => signed (-1) rest
  | '+' :: rest => signed 1 rest
  | rest => (readNumber? 4 rest).map fun (n, rest) => (n, rest)
where
  signed (sign : Int) (cs : List Char) : Option (Int × List Char) :=
    match cs with
    | c :: _ =>
        if Text.isDigit c then
          (readNumber? cs.length cs).map fun (n, rest) => (sign * n, rest)
        else none
    | [] => none

def readMark? (mark : Char) (cs : List Char) : Option (List Char) :=
  match Text.trimLeft cs with
  | c :: rest => if c = mark then some rest else none
  | [] => none

def readFraction? (cs : List Char) : Option (Nat × List Char) :=
  match cs with
  | '.' :: rest =>
      let digits := rest.takeWhile Text.isDigit
      if digits.isEmpty then none
      else some (Text.fractionValue 9 digits, rest.dropWhile Text.isDigit)
  | _ => some (0, cs)

def read? (s : String) : Option Timestamp := do
  let (year, cs) ← readYear? s.toList
  let cs ← readMark? '-' cs
  let (month, cs) ← readNumber? 2 cs
  let cs ← readMark? '-' cs
  let (day, cs) ← readNumber? 2 cs
  let cs ← readMark? 'T' cs
  let (hour, cs) ← readNumber? 2 cs
  let cs ← readMark? ':' cs
  let (minute, cs) ← readNumber? 2 cs
  let cs ← readMark? ':' cs
  let (second, cs) ← readNumber? 2 cs
  let (nanosecond, cs) ← readFraction? cs
  guard (Text.trimLeft cs).isEmpty
  if second = 60 then of? year month day hour minute 59 (1000000000 + nanosecond)
  else of? year month day hour minute second nanosecond

end Timestamp

end QueryBinding
