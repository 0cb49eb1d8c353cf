import QueryBinding.Calendar
import QueryBinding.Document
import QueryBinding.Text.Digits

/-!
# TOML dates and times

A value can be a date, a time of day, or both together, with or without an offset
from universal time.  In a document it is a record with a single field that holds
its canonical text, so it can stand wherever a record of texts can.
-/

namespace QueryBinding.Toml

structure Date where
  year : Nat
  month : Nat
  day : Nat
  deriving DecidableEq, Repr

structure TimeOfDay where
  hour : Nat
  minute : Nat
  second : Nat
  nanosecond : Nat
  deriving DecidableEq, Repr

inductive Offset where
  | universal
  | minutes (n : Int)
  deriving DecidableEq, Repr

inductive DateTime where
  | date (date : Date)
  | time (time : TimeOfDay)
  | moment (date : Date) (time : TimeOfDay) (offset : Option Offset)
  deriving DecidableEq, Repr

/-! ## Reading -/

def readExactly? (count : Nat) (cs : List Char) : Option (Nat × List Char) :=
  let digits := cs.take count
  if digits.length = count ∧ digits.all Text.isDigit then
    some (Text.decimalValue digits, cs.drop count)
  else none

def readMark? (mark : Char) : List Char → Option (List Char)
  | c :: rest => if c = mark then some rest else none
  | [] => none

def readDate? (cs : List Char) : Option (Date × List Char) := do
  let (year, cs) ← readExactly? 4 cs
  let cs ← readMark? '-' cs
  let (month, cs) ← readExactly? 2 cs
  let cs ← readMark? '-' cs
  let (day, cs) ← readExactly? 2 cs
  guard (Calendar.isDate year month day)
  return (⟨year, month, day⟩, cs)

def readFraction (cs : List Char) : Nat × List Char :=
  match cs with
  | '.' :: rest =>
      let digits := rest.takeWhile Text.isDigit
      if digits.isEmpty then (0, cs)
      else (Text.fractionValue 9 digits, rest.dropWhile Text.isDigit)
  | cs => (0, cs)

def readTime? (cs : List Char) : Option (TimeOfDay × List Char) := do
  let (hour, cs) ← readExactly? 2 cs
  let cs ← readMark? ':' cs
  let (minute, cs) ← readExactly? 2 cs
  let cs ← readMark? ':' cs
  let (second, cs) ← readExactly? 2 cs
  guard (hour ≤ 23 && minute ≤ 59 && second ≤ 60)
  let (nanosecond, cs) := readFraction cs
  return (⟨hour, minute, second, nanosecond⟩, cs)

def readOffset? : List Char → Option (Offset × List Char)
  | [] => none
  | c :: cs =>
      if c == 'Z' || c == 'z' then some (.universal, cs)
      else if c == '+' || c == '-' then do
        let (hour, cs) ← readExactly? 2 cs
        let cs ← readMark? ':' cs
        let (minute, cs) ← readExactly? 2 cs
        guard (hour ≤ 23 && minute ≤ 59)
        let n : Int := 60 * hour + minute
        return (.minutes (if c == '-' then -n else n), cs)
      else none

/-- Read a date, a date with a time and perhaps an offset, or a time. -/
def readDateTime? (cs : List Char) : Option (DateTime × List Char) :=
  match readDate? cs with
  | some (date, rest) =>
      match rest with
      | c :: more =>
          if c == 'T' || c == 't' || c == ' ' then
            match readTime? more with
            | some (time, rest) =>
                match readOffset? rest with
                | some (offset, rest) => some (.moment date time (some offset), rest)
                | none => some (.moment date time none, rest)
            | none => some (.date date, rest)
          else some (.date date, rest)
      | [] => some (.date date, rest)
  | none => (readTime? cs).map fun (time, rest) => (.time time, rest)

/-! ## Canonical texts -/

def Date.render (date : Date) : List Char :=
  Text.padZeros 4 (Text.decimalDigits date.year) ++ '-' :: Text.twoDigits date.month
    ++ '-' :: Text.twoDigits date.day

def TimeOfDay.render (time : TimeOfDay) : List Char :=
  let fraction :=
    if time.nanosecond = 0 then []
    else '.' :: Text.dropTrailingZeros (Text.padZeros 9 (Text.decimalDigits time.nanosecond))
  Text.twoDigits time.hour ++ ':' :: Text.twoDigits time.minute
    ++ ':' :: Text.twoDigits time.second ++ fraction

def Offset.render : Offset → List Char
  | .universal => ['Z']
  | .minutes n =>
      (if n < 0 then '-' else '+') :: Text.twoDigits (n.natAbs / 60)
        ++ ':' :: Text.twoDigits (n.natAbs % 60)

namespace DateTime

def render : DateTime → List Char
  | .date d => d.render
  | .time t => t.render
  | .moment d t offset => d.render ++ 'T' :: t.render ++ (offset.map Offset.render).getD []

def fieldName : String :=
  "$__toml_private_datetime"

def toDocument (t : DateTime) : Document :=
  .record [(fieldName, .text (String.ofList t.render))]

end DateTime

end QueryBinding.Toml
