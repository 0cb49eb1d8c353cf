import QueryBinding.Json.Number

/-!
# Reading JSON

A reader for the whole of JSON.  Texts with unpaired surrogates and numbers out of
range are well-formed but unreadable, and so is an object with such a text for a
key.
-/

namespace QueryBinding.Json

def isSpace (c : Char) : Bool :=
  c == ' ' || c == '\n' || c == '\t' || c == '\r'

def skipSpace (cs : List Char) : List Char :=
  cs.dropWhile isSpace

/-! ## Texts -/

def escaped? : Char → Option Char
  | '"' => some '"'
  | '\\' => some '\\'
  | '/' => some '/'
  | 'b' => some '\x08'
  | 'f' => some '\x0c'
  | 'n' => some '\n'
  | 'r' => some '\r'
  | 't' => some '\t'
  | _ => none

def prepend (unit : Nat) (read : Option (List Nat × List Char)) : Option (List Nat × List Char) :=
  read.map fun (units, rest) => (unit :: units, rest)

/--
Read the code units of a text up to its closing quote.  Characters stand for
their codes, and a numeric escape for the unit it gives.
-/
def readUnits? : List Char → Option (List Nat × List Char)
  | '"' :: rest => some ([], rest)
  | '\\' :: 'u' :: a :: b :: c :: d :: rest =>
      (Text.hexNumber? [a, b, c, d]).bind fun unit => prepend unit (readUnits? rest)
  | '\\' :: c :: rest =>
      (escaped? c).bind fun c => prepend c.toNat (readUnits? rest)
  | c :: rest =>
      if c.toNat < 0x20 || c == '\\' then none else prepend c.toNat (readUnits? rest)
  | [] => none

def isHighSurrogate (n : Nat) : Bool :=
  0xD800 ≤ n && n < 0xDC00

def isLowSurrogate (n : Nat) : Bool :=
  0xDC00 ≤ n && n < 0xE000

def joinUnits? : List Nat → Option (List Char)
  | [] => some []
  | high :: low :: rest =>
      if isHighSurrogate high then
        if isLowSurrogate low then
          (joinUnits? rest).map (.ofNat (0x10000 + (high - 0xD800) * 0x400 + (low - 0xDC00)) :: ·)
        else none
      else if isLowSurrogate high then none
      else (joinUnits? (low :: rest)).map (.ofNat high :: ·)
  | [last] => if isHighSurrogate last || isLowSurrogate last then none else some [.ofNat last]

def readText? (cs : List Char) : Option (Option String × List Char) := do
  let (units, rest) ← readUnits? cs
  return ((joinUnits? units).map String.ofList, rest)

/-! ## Numbers -/

def readDigits? (cs : List Char) : Option (List Char × List Char) :=
  let digits := cs.takeWhile Text.isDigit
  if digits.isEmpty then none else some (digits, cs.dropWhile Text.isDigit)

def readWhole? : List Char → Option (List Char × List Char)
  | '0' :: rest =>
      match rest with
      | c :: _ => if Text.isDigit c then none else some (['0'], rest)
      | [] => some (['0'], rest)
  | cs => readDigits? cs

def readFraction? : List Char → Option (Option (List Char) × List Char)
  | '.' :: rest => (readDigits? rest).map fun (digits, rest) => (some digits, rest)
  | cs => some (none, cs)

def readExponent? (cs : List Char) : Option (Option (Bool × List Char) × List Char) :=
  match cs with
  | c :: rest =>
      if c == 'e' || c == 'E' then
        let (negative, rest) := match rest with
          | '-' :: rest => (true, rest)
          | '+' :: rest => (false, rest)
          | rest => (false, rest)
        (readDigits? rest).map fun (digits, rest) => (some (negative, digits), rest)
      else some (none, cs)
  | [] => some (none, cs)

def readNumber? (cs : List Char) : Option (NumberLiteral × List Char) := do
  let (negative, cs) := match cs with
    | '-' :: rest => (true, rest)
    | cs => (false, cs)
  let (whole, cs) ← readWhole? cs
  let (fraction, cs) ← readFraction? cs
  let (exponent, cs) ← readExponent? cs
  return (⟨negative, whole, fraction, exponent⟩, cs)

/-! ## Values -/

def readWord? (word : String) (d : Document) (cs : List Char) : Option (Document × List Char) :=
  (word.toList.isPrefixOf? cs).map (d, ·)

def readItems? {α : Type} (item : List Char → Option (α × List Char)) (close : Char) :
    Nat → List Char → Option (List α × List Char)
  | 0, _ => none
  | fuel + 1, cs => do
      let (x, cs) ← item (skipSpace cs)
      match skipSpace cs with
      | c :: rest =>
          if c == close then return ([x], rest)
          else if c == ',' then
            let (xs, rest) ← readItems? item close fuel rest
            return (x :: xs, rest)
          else none
      | [] => none

def readBracket? {α : Type} (item : List Char → Option (α × List Char)) (close : Char)
    (fuel : Nat) (cs : List Char) : Option (List α × List Char) :=
  match skipSpace cs with
  | c :: rest => if c == close then some ([], rest) else readItems? item close fuel (c :: rest)
  | [] => none

def readField? (value : List Char → Option (Document × List Char)) (cs : List Char) :
    Option ((Option String × Document) × List Char) := do
  match cs with
  | '"' :: rest =>
      let (key, cs) ← readText? rest
      match skipSpace cs with
      | ':' :: rest =>
          let (d, rest) ← value (skipSpace rest)
          return ((key, d), rest)
      | _ => none
  | _ => none

def ofFields (fields : List (Option String × Document)) : Document :=
  match fields.mapM fun (key, d) => key.map (·, d) with
  | some fields => .record fields
  | none => .unreadable

/--
Read a value whose brackets are nested less than `depth` deep and hold at most
`fuel` items each.
-/
def readValue? (fuel depth : Nat) (cs : List Char) : Option (Document × List Char) :=
  match cs with
  | 'n' :: _ => readWord? "null" .null cs
  | 't' :: _ => readWord? "true" (.bool true) cs
  | 'f' :: _ => readWord? "false" (.bool false) cs
  | '"' :: rest =>
      (readText? rest).map fun (s, rest) => ((s.map Document.text).getD .unreadable, rest)
  | '[' :: rest =>
      match depth with
      | 0 => none
      | depth + 1 =>
          (readBracket? (readValue? fuel depth) ']' fuel rest).map fun (items, rest) =>
            (.list items, rest)
  | '\x7b' :: rest =>
      match depth with
      | 0 => none
      | depth + 1 =>
          (readBracket? (readField? (readValue? fuel depth)) '\x7d' fuel rest).map
            fun (fields, rest) => (ofFields fields, rest)
  | cs => (readNumber? cs).map fun (literal, rest) => (literal.toDocument, rest)

def read? (s : String) : Option Document := do
  let cs := s.toList
  let (d, rest) ← readValue? cs.length cs.length (skipSpace cs)
  if (skipSpace rest).isEmpty then return d else none

/-- Values may be nested up to 127 deep, and a list is as long as its record. -/
def limits : Document.Limits :=
  ⟨127, false⟩

end QueryBinding.Json
