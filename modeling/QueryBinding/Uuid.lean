import QueryBinding.Text.Digits

/-!
# Universally unique identifiers

One hundred and twenty-eight bits, written as five hyphenated groups of
lower-case hexadecimal digits.  Reading also takes the digits without hyphens,
and the hyphenated form in braces or behind `urn:uuid:` in letters of either case.
-/

namespace QueryBinding

structure Uuid where
  bits : BitVec 128
  deriving DecidableEq, Repr, Inhabited

namespace Uuid

def render (uuid : Uuid) : String :=
  let digits := Text.padZeros 32 (Text.hexDigits uuid.bits.toNat)
  String.ofList (digits.take 8 ++ '-' :: (digits.drop 8).take 4 ++ '-' :: (digits.drop 12).take 4
    ++ '-' :: (digits.drop 16).take 4 ++ '-' :: digits.drop 20)

def readDigits? (digits : List Char) : Option Uuid :=
  if digits.length = 32 then (Text.hexNumber? digits).map fun n => ⟨BitVec.ofNat 128 n⟩
  else none

def readHyphenated? (cs : List Char) : Option Uuid :=
  if cs.length = 36 ∧ [8, 13, 18, 23].all (fun i => cs[i]? = some '-') then
    readDigits? (cs.take 8 ++ (cs.drop 9).take 4 ++ (cs.drop 14).take 4 ++ (cs.drop 19).take 4
      ++ cs.drop 24)
  else none

def resourceMark : List Char :=
  "urn:uuid:".toList

def read? (s : String) : Option Uuid :=
  let cs := s.toList
  match cs.length with
  | 32 => readDigits? cs
  | 36 => readHyphenated? cs
  | 38 =>
      if cs.head? = some '{' ∧ cs.getLast? = some '}' then readHyphenated? (cs.drop 1).dropLast
      else none
  | 45 =>
      if (cs.take 9).map Char.toLower = resourceMark then readHyphenated? (cs.drop 9) else none
  | _ => none

end Uuid

end QueryBinding
