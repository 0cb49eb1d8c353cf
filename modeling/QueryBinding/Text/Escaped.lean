import QueryBinding.Text.Digits
import QueryBinding.Text.Printable

/-!
# Escaped texts

Listings put texts between double quotes, with quotes, backslashes and
unprintable characters escaped.
-/

namespace QueryBinding.Text

def codeEscape (c : Char) : List Char :=
  "\\u\x7b".toList ++ hexDigits c.toNat ++ ['\x7d']

def escapeChar (c : Char) : List Char :=
  match c with
  | '"' => ['\\', '"']
  | '\\' => ['\\', '\\']
  | '\n' => ['\\', 'n']
  | '\r' => ['\\', 'r']
  | '\t' => ['\\', 't']
  | '\x00' => ['\\', '0']
  | c => if isPrintable c then [c] else codeEscape c

def escape (s : String) : String :=
  String.ofList ('"' :: s.toList.flatMap escapeChar ++ ['"'])

end QueryBinding.Text
