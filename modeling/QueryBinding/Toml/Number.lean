import QueryBinding.Toml.DateTime

/-!
# TOML numbers

Whole numbers have sixty-four bits and may be written in four bases; digits may be
grouped by single underscores.  Floating-point numbers are checked and then kept as
unreadable, since no configuration field takes one.
-/

namespace QueryBinding.Toml

/-! ## Digits -/

def readGrouped? (isDigit : Char → Bool) : List Char → Option (List Char × List Char)
  | [] => none
  | c :: rest =>
      if isDigit c then
        match rest with
        | '_' :: next :: more =>
            if isDigit next then
              (readGrouped? isDigit (next :: more)).map fun (ds, rest) => (c :: ds, rest)
            else none
        | ['_'] => none
        | next :: more =>
            if isDigit next then
              (readGrouped? isDigit (next :: more)).map fun (ds, rest) => (c :: ds, rest)
            else some ([c], rest)
        | [] => some ([c], [])
      else none

/-! ## Numbers -/

def readSign (cs : List Char) : Bool × List Char :=
  match cs with
  | '-' :: rest => (true, rest)
  | '+' :: rest => (false, rest)
  | cs => (false, cs)

def readDecimal? : List Char → Option (List Char × List Char)
  | '0' :: rest => some (['0'], rest)
  | cs => readGrouped? Text.isDigit cs

def valueIn (base : Nat) (digits : List Char) : Nat :=
  digits.foldl (fun n c => base * n + (Text.hexValue? c).getD 0) 0

def asInteger? (n : Int) : Option Document :=
  if -Int.pow 2 63 ≤ n ∧ n < Int.pow 2 63 then some (.integer n) else none

def readBased? (base : Nat) (cs : List Char) : Option (Document × List Char) := do
  let isDigit := fun c => (Text.hexValue? c).any (· < base)
  let (digits, rest) ← readGrouped? isDigit cs
  return (← asInteger? (valueIn base digits), rest)

/--
Whether `digits * 10 ^ exponent` is too large for a floating-point number, that is,
rounds to infinity.
-/
def overflows (digits : List Char) (exponent : Int) : Bool :=
  let n := Text.decimalValue digits
  let places := (Text.decimalDigits n).length + exponent
  if n = 0 ∨ places < 300 then false
  else if 320 < places then true
  else Nat.pow 2 1024 - Nat.pow 2 970 ≤
    n * Nat.pow 10 exponent.toNat / Nat.pow 10 (-exponent).toNat

def readReal? (cs : List Char) : Option (Document × List Char) := do
  let (negative, cs) := readSign cs
  let (whole, cs) ← readDecimal? cs
  let (fraction, cs) ← match cs with
    | '.' :: rest => readGrouped? Text.isDigit rest
    | cs => some ([], cs)
  let (shift, rest) ← match cs with
    | c :: rest =>
        if c == 'e' || c == 'E' then
          let (negative, rest) := readSign rest
          (readGrouped? Text.isDigit rest).map fun (digits, rest) =>
            let n : Int := Text.decimalValue digits
            (if negative then -n else n, rest)
        else some (0, cs)
    | [] => some (0, [])
  guard (!fraction.isEmpty || rest.length < cs.length)
  guard (negative || !overflows (whole ++ fraction) (shift - fraction.length))
  return (.unreadable, rest)

def readSpecial? (cs : List Char) : Option (Document × List Char) :=
  let (_, cs) := readSign cs
  (("inf".toList.isPrefixOf? cs).or ("nan".toList.isPrefixOf? cs)).map (.unreadable, ·)

def readInteger? (cs : List Char) : Option (Document × List Char) :=
  match cs with
  | '0' :: 'x' :: rest => readBased? 16 rest
  | '0' :: 'o' :: rest => readBased? 8 rest
  | '0' :: 'b' :: rest => readBased? 2 rest
  | cs => do
      let (negative, cs) := readSign cs
      let (digits, rest) ← readDecimal? cs
      let n : Int := Text.decimalValue digits
      return (← asInteger? (if negative then -n else n), rest)

def readNumber? (cs : List Char) : Option (Document × List Char) :=
  match readDateTime? cs with
  | some (t, rest) => some (t.toDocument, rest)
  | none => (readReal? cs).or ((readSpecial? cs).or (readInteger? cs))

end QueryBinding.Toml
