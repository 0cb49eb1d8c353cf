/-!
# Quoted literals

A string literal stands between single quotes, and a quote inside it is written
twice.  `quote` writes a literal; `readLiteral` reads one from the front of a
text, a lone quote closing it.
-/

namespace QueryBinding.Text

def doubleQuotes : List Char → List Char
  | [] => []
  | c :: rest => if c = '\'' then '\'' :: '\'' :: doubleQuotes rest else c :: doubleQuotes rest

def quote (s : String) : String :=
  String.ofList ('\'' :: doubleQuotes s.toList ++ ['\''])

/--
Read the rest of a literal whose opening quote is behind us.  The result is the
text of the literal and what follows its closing quote; a literal that is never
closed is refused.
-/
def readLiteralBody : List Char → Option (List Char × List Char)
  | [] => none
  | '\'' :: '\'' :: rest => (readLiteralBody rest).map fun (text, tail) => ('\'' :: text, tail)
  | c :: rest =>
      if c = '\'' then some ([], rest)
      else (readLiteralBody rest).map fun (text, tail) => (c :: text, tail)

def readLiteral : List Char → Option (List Char × List Char)
  | [] => none
  | c :: rest => if c = '\'' then readLiteralBody rest else none

end QueryBinding.Text
