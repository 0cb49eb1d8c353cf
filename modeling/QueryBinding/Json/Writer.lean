import QueryBinding.Binary64.Shortest
import QueryBinding.Document

/-!
# Writing JSON

Documents are written without spaces.  Floating-point numbers have the fewest
digits that read back, of two equally near ones the even, with a point or an
exponent; NaN and the infinities become null.
-/

namespace QueryBinding.Json

def escapeChar (c : Char) : List Char :=
  match c with
  | '"' => ['\\', '"']
  | '\\' => ['\\', '\\']
  | '\x08' => ['\\', 'b']
  | '\x0c' => ['\\', 'f']
  | '\n' => ['\\', 'n']
  | '\r' => ['\\', 'r']
  | '\t' => ['\\', 't']
  | c =>
      if c.toNat < 0x20 then '\\' :: 'u' :: Text.padZeros 4 (Text.hexDigits c.toNat) else [c]

def writeText (s : String) : List Char :=
  '"' :: s.toList.flatMap escapeChar ++ ['"']

/--
Digits times a power of ten: positional from `10 ^ -5` up to `10 ^ 16`, else with
one digit before the point and an exponent.
-/
def writeDecimal (digits : List Char) (exponent : Int) : List Char :=
  let places := digits.length + exponent
  if 0 ≤ exponent ∧ places ≤ 16 then Binary64.positional digits exponent ++ ['.', '0']
  else if -5 < places ∧ places ≤ 16 then Binary64.positional digits exponent
  else
    let mantissa := match digits with
      | first :: second :: rest => first :: '.' :: second :: rest
      | digits => digits
    mantissa ++ 'e' :: (toString (places - 1)).toList

def writeReal (x : Binary64) : List Char :=
  if !x.isFinite then "null".toList
  else
    let magnitude :=
      if x.isZero then "0.0".toList
      else
        let (digits, exponent) := x.shortestDigits .even
        writeDecimal digits exponent
    if x.isNegative then '-' :: magnitude else magnitude

def commaSeparated (items : List (List Char)) : List Char :=
  [','].intercalate items

mutual

def write : Document → List Char
  | .null => "null".toList
  | .bool b => (if b then "true" else "false").toList
  | .integer n => (toString n).toList
  | .real x => writeReal x
  | .text s => writeText s
  | .list items => '[' :: commaSeparated (writeAll items) ++ [']']
  | .record fields => '\x7b' :: commaSeparated (writeFields fields) ++ ['\x7d']
  | .unreadable => "null".toList

def writeAll : List Document → List (List Char)
  | [] => []
  | d :: rest => write d :: writeAll rest

def writeFields : List (String × Document) → List (List Char)
  | [] => []
  | field :: rest => writeField field :: writeFields rest

def writeField : String × Document → List Char
  | (key, d) => writeText key ++ ':' :: write d

end

def render (d : Document) : String :=
  String.ofList (write d)

end QueryBinding.Json
