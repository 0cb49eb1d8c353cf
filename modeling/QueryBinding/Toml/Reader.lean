import QueryBinding.Toml.Number
import QueryBinding.Toml.Table
import QueryBinding.Toml.Text

/-!
# Reading TOML

A reader for the whole of TOML 1.0.  A text is read statement by statement, and the
statements are then put together to one table.
-/

namespace QueryBinding.Toml

/-! ## Values -/

def readItems? (value : List Char → Option (Document × List Char)) :
    Nat → List Char → Option (List Document × List Char)
  | 0, _ => none
  | fuel + 1, cs => do
      match ← skipLines cs.length cs with
      | ']' :: rest => return ([], rest)
      | cs =>
          let (d, cs) ← value cs
          match ← skipLines cs.length cs with
          | ']' :: rest => return ([d], rest)
          | ',' :: rest =>
              let (ds, rest) ← readItems? value fuel rest
              return (d :: ds, rest)
          | _ => none

def readAssignment? (value : List Char → Option (Document × List Char)) (cs : List Char) :
    Option (Assignment × List Char) := do
  let ((path, key), cs) ← readKey? cs
  let cs ← readMark? '=' cs
  let (d, cs) ← value (skipSpace cs)
  return (⟨path, key, d⟩, cs)

def readInline? (value : List Char → Option (Document × List Char)) :
    Nat → List Char → Option (List Assignment × List Char)
  | 0, _ => none
  | fuel + 1, cs => do
      let (a, cs) ← readAssignment? value cs
      match skipSpace cs with
      | '\x7d' :: rest => return ([a], rest)
      | ',' :: rest =>
          let (as, rest) ← readInline? value fuel rest
          return (a :: as, rest)
      | _ => none

def readValue? (depth : Nat) (cs : List Char) : Option (Document × List Char) :=
  match cs with
  | '"' :: _ | '\'' :: _ => (readText? cs).map fun (s, rest) => (.text s, rest)
  | '[' :: rest =>
      match depth with
      | 0 => none
      | depth + 1 =>
          (readItems? (readValue? depth) cs.length rest).map fun (ds, rest) => (.list ds, rest)
  | '\x7b' :: rest =>
      match depth with
      | 0 => none
      | depth + 1 =>
          match skipSpace rest with
          | '\x7d' :: rest => some (.record [], rest)
          | rest => do
              let (as, rest) ← readInline? (readValue? depth) cs.length rest
              return (← inlineTable? as, rest)
  | 't' :: _ => ("true".toList.isPrefixOf? cs).map (.bool true, ·)
  | 'f' :: _ => ("false".toList.isPrefixOf? cs).map (.bool false, ·)
  | cs => readNumber? cs

/-! ## Statements -/

inductive Statement where
  | assign (assignment : Assignment)
  | header (header : Header)

def readHeader? (isElement : Bool) (cs : List Char) : Option (Statement × List Char) := do
  let ((path, key), cs) ← readKey? cs
  let cs ← readMark? ']' cs
  let cs ← if isElement then readMark? ']' cs else some cs
  return (.header ⟨path, key, isElement⟩, ← readLineEnd? cs)

def readStatement? (cs : List Char) : Option (Statement × List Char) :=
  match cs with
  | '[' :: '[' :: rest => readHeader? true rest
  | '[' :: rest => readHeader? false rest
  | cs => do
      let (a, cs) ← readAssignment? (readValue? (nestingLimit - 1)) cs
      return (.assign a, ← readLineEnd? cs)

def readStatements? : Nat → List Char → Option (List Statement)
  | 0, _ => none
  | fuel + 1, cs => do
      match ← skipLines cs.length cs with
      | [] => return []
      | cs =>
          let (statement, cs) ← readStatement? cs
          return statement :: (← readStatements? fuel cs)

/-- The assignments before the first header, and the sections that the headers start. -/
def sections : List Statement → List Assignment × List Section
  | [] => ([], [])
  | .assign a :: rest =>
      let (before, parts) := sections rest
      (a :: before, parts)
  | .header header :: rest =>
      let (below, parts) := sections rest
      ([], ⟨header, below⟩ :: parts)

def read? (s : String) : Option Document := do
  let cs := match s.toList with
    | '\uFEFF' :: rest => rest
    | cs => cs
  let (before, parts) := sections (← readStatements? (cs.length + 1) cs)
  assemble? before parts

def limits : Document.Limits :=
  ⟨1000, true⟩

end QueryBinding.Toml
