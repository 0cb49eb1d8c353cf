import QueryBinding.Text.Digits

/-!
# TOML texts and keys

The four kinds of quoted texts, comments, blanks and line ends, and dotted keys.
-/

namespace QueryBinding.Toml

/-! ## Blanks and comments -/

def isSpace (c : Char) : Bool :=
  c == ' ' || c == '\t'

def skipSpace (cs : List Char) : List Char :=
  cs.dropWhile isSpace

def isPlain (c : Char) : Bool :=
  c == '\t' || (0x20 ≤ c.toNat && c.toNat != 0x7F)

def readNewline? : List Char → Option (List Char)
  | '\n' :: rest => some rest
  | '\r' :: '\n' :: rest => some rest
  | _ => none

def skipComment (cs : List Char) : List Char :=
  match cs with
  | '#' :: rest => rest.dropWhile isPlain
  | cs => cs

def readLineEnd? (cs : List Char) : Option (List Char) :=
  match skipComment (skipSpace cs) with
  | [] => some []
  | cs => readNewline? cs

def skipLines : Nat → List Char → Option (List Char)
  | 0, cs => some cs
  | fuel + 1, cs =>
      match skipSpace cs with
      | '#' :: rest =>
          match rest.dropWhile isPlain with
          | [] => some []
          | cs => do skipLines fuel (← readNewline? cs)
      | cs =>
          match readNewline? cs with
          | some rest => skipLines fuel rest
          | none => some cs

/-! ## Quoted texts -/

def readCode? (count : Nat) (cs : List Char) : Option (Char × List Char) := do
  let digits := cs.take count
  guard (digits.length = count)
  let n ← Text.hexNumber? digits
  guard n.isValidChar
  return (.ofNat n, cs.drop count)

def readEscape? : List Char → Option (Char × List Char)
  | 'b' :: rest => some ('\x08', rest)
  | 't' :: rest => some ('\t', rest)
  | 'n' :: rest => some ('\n', rest)
  | 'f' :: rest => some ('\x0c', rest)
  | 'r' :: rest => some ('\r', rest)
  | '"' :: rest => some ('"', rest)
  | '\\' :: rest => some ('\\', rest)
  | 'u' :: rest => readCode? 4 rest
  | 'U' :: rest => readCode? 8 rest
  | _ => none

def readLine? (quote : Char) : Nat → List Char → Option (List Char × List Char)
  | 0, _ => none
  | fuel + 1, cs =>
      match cs with
      | [] => none
      | c :: rest =>
          if c == quote then some ([], rest)
          else if c == '\\' && quote == '"' then do
            let (c, rest) ← readEscape? rest
            let (text, rest) ← readLine? quote fuel rest
            return (c :: text, rest)
          else if isPlain c then
            (readLine? quote fuel rest).map fun (text, rest) => (c :: text, rest)
          else none

def readFold? (cs : List Char) : Option (List Char) :=
  (readNewline? (skipSpace cs)).map fun rest => skipBlanks rest.length rest
where
  skipBlanks : Nat → List Char → List Char
    | 0, cs => cs
    | fuel + 1, cs =>
        match readNewline? (skipSpace cs) with
        | some rest => skipBlanks fuel rest
        | none => skipSpace cs

/--
Read a text of several lines behind its opening quotes.  Three quotes close it, and
up to two more before them belong to the text; a line end counts as a line feed.
-/
def readLines? (quote : Char) : Nat → List Char → Option (List Char × List Char)
  | 0, _ => none
  | fuel + 1, cs =>
      match cs with
      | [] => none
      | c :: rest =>
          if c == quote then
            let quotes := cs.takeWhile (· == quote)
            if 3 ≤ quotes.length then
              let kept := min (quotes.length - 3) 2
              some (List.replicate kept quote, cs.drop (kept + 3))
            else
              (readLines? quote fuel rest).map fun (text, rest) => (c :: text, rest)
          else if c == '\\' && quote == '"' then
            match readFold? rest with
            | some rest => readLines? quote fuel rest
            | none => do
                let (c, rest) ← readEscape? rest
                let (text, rest) ← readLines? quote fuel rest
                return (c :: text, rest)
          else
            match readNewline? cs with
            | some rest => (readLines? quote fuel rest).map fun (text, rest) => ('\n' :: text, rest)
            | none =>
                if isPlain c then
                  (readLines? quote fuel rest).map fun (text, rest) => (c :: text, rest)
                else none

def readText? (cs : List Char) : Option (String × List Char) :=
  let read := match cs with
    | a :: b :: c :: rest =>
        if (a == '"' || a == '\'') && a == b && b == c then
          readLines? a (cs.length + 1) ((readNewline? rest).getD rest)
        else readOne a (b :: c :: rest)
    | a :: rest => readOne a rest
    | [] => none
  read.map fun (text, rest) => (String.ofList text, rest)
where
  readOne (quote : Char) (rest : List Char) : Option (List Char × List Char) :=
    if quote == '"' || quote == '\'' then readLine? quote (rest.length + 1) rest else none

/-! ## Keys -/

def isBare (c : Char) : Bool :=
  Text.isDigit c || ('a' ≤ c && c ≤ 'z') || ('A' ≤ c && c ≤ 'Z') || c == '-' || c == '_'

def readSimpleKey? (cs : List Char) : Option (String × List Char) :=
  match cs with
  | '"' :: rest => quoted '"' rest
  | '\'' :: rest => quoted '\'' rest
  | cs =>
      let key := cs.takeWhile isBare
      if key.isEmpty then none else some (String.ofList key, cs.dropWhile isBare)
where
  quoted (quote : Char) (rest : List Char) : Option (String × List Char) :=
    (readLine? quote (rest.length + 1) rest).map fun (text, rest) => (String.ofList text, rest)

def readKeyParts? : Nat → List Char → Option (List String × List Char)
  | 0, _ => none
  | fuel + 1, cs => do
      let (part, cs) ← readSimpleKey? (skipSpace cs)
      match skipSpace cs with
      | '.' :: rest =>
          let (parts, rest) ← readKeyParts? fuel rest
          return (part :: parts, rest)
      | rest => return ([part], rest)

/-- The deepest nesting of values, and one more than the number of parts of a key. -/
def nestingLimit : Nat :=
  80

def readKey? (cs : List Char) : Option ((List String × String) × List Char) := do
  let (parts, rest) ← readKeyParts? (cs.length + 1) cs
  guard (parts.length < nestingLimit)
  return ((parts.dropLast, ← parts.getLast?), rest)

end QueryBinding.Toml
