import Mathlib.Algebra.Group.Nat.Defs
import Mathlib.Data.List.TakeWhile
import QueryBinding.Text.Blank
import QueryBinding.Uuid

/-!
# Digits read back

Numbers read back from their decimal and hexadecimal digits, zeros in front of them not
counting.  An identifier is read back from the groups of digits that it is written in.
-/

namespace QueryBinding

namespace Text

/-! ## Decimal digits -/

theorem isBlank_of_isDigit {c : Char} (h : isDigit c = true) : isBlank c = false := by
  simp only [isDigit, Bool.and_eq_true, decide_eq_true_eq] at h
  have hleast : 48 ≤ c.toNat := h.1
  have hgreatest : c.toNat ≤ 57 := h.2
  simp [isBlank]
  omega

theorem isDigit_of_mem_decimalDigits {n : Nat} {c : Char} (h : c ∈ decimalDigits n) :
    isDigit c = true := by
  have hdigit := Nat.isDigit_of_mem_toDigits (by decide) (by decide) h
  simpa [isDigit, Char.isDigit, Char.le_def] using hdigit

theorem decimalValue_decimalDigits (n : Nat) : decimalValue (decimalDigits n) = n :=
  Nat.ofDigitChars_toDigits (by decide) (by decide)

theorem length_decimalDigits_le {n width : Nat} (hwidth : 0 < width) (h : n < 10 ^ width) :
    (decimalDigits n).length ≤ width :=
  (Nat.length_toDigits_le_iff (by decide) hwidth).mpr h

/-! ## Zeros in front -/

theorem length_padZeros {width : Nat} {digits : List Char} (h : digits.length ≤ width) :
    (padZeros width digits).length = width := by
  simp [padZeros]
  omega

theorem padZeros_decimalDigits_ne_nil (width n : Nat) : padZeros width (decimalDigits n) ≠ [] := by
  have hne : decimalDigits n ≠ [] := Nat.toDigits_ne_nil
  simp [padZeros, hne]

theorem isDigit_of_mem_padZeros {width n : Nat} {c : Char}
    (h : c ∈ padZeros width (decimalDigits n)) : isDigit c = true := by
  rcases List.mem_append.mp h with hzero | hdigit
  · rw [List.eq_of_mem_replicate hzero]
    rfl
  · exact isDigit_of_mem_decimalDigits hdigit

theorem decimalValue_padZeros (width n : Nat) :
    decimalValue (padZeros width (decimalDigits n)) = n := by
  have happend : decimalValue (padZeros width (decimalDigits n)) =
      Nat.ofDigitChars 10 (decimalDigits n)
        (Nat.ofDigitChars 10 (List.replicate (width - (decimalDigits n).length) '0') 0) :=
    Nat.ofDigitChars_append 0
  rw [happend, Nat.ofDigitChars_replicate_zero, Nat.mul_zero]
  exact decimalValue_decimalDigits n

theorem fractionValue_padZeros {width places n : Nat} (hwidth : 0 < width)
    (hplaces : width ≤ places) (h : n < 10 ^ width) :
    fractionValue places (padZeros width (decimalDigits n)) = n * 10 ^ (places - width) := by
  have hlength := length_padZeros (length_decimalDigits_le hwidth h)
  rw [fractionValue, List.take_of_length_le (by rw [hlength]; exact hplaces), hlength,
    decimalValue_padZeros]
  rfl

/-! ## Hexadecimal digits -/

theorem hexValue?_digitChar {n : Nat} (h : n < 16) : hexValue? n.digitChar = some n := by
  have hall : ∀ digit : Fin 16, hexValue? (Nat.digitChar digit) = some digit.val := by decide
  exact hall ⟨n, h⟩

theorem hexNumber?_append_digit {digits : List Char} {n digit : Nat}
    (hdigits : hexNumber? digits = some n) (hdigit : digit < 16) :
    hexNumber? (digits ++ [digit.digitChar]) = some (16 * n + digit) := by
  unfold hexNumber? at hdigits ⊢
  simp [List.foldlM_append, hdigits, hexValue?_digitChar hdigit]

theorem hexNumber?_hexDigits (n : Nat) : hexNumber? (hexDigits n) = some n := by
  induction n using Nat.strongRecOn with
  | ind n ih =>
      unfold hexDigits at ih ⊢
      by_cases hn : n < 16
      · rw [Nat.toDigits_of_lt_base hn]
        have hnone : hexNumber? [] = some 0 := rfl
        simpa using hexNumber?_append_digit hnone hn
      · have hlower := ih (n / 16) (by omega)
        rw [Nat.toDigits_of_base_le (by decide) (by omega),
          hexNumber?_append_digit hlower (Nat.mod_lt n (by decide))]
        congr 1
        omega

theorem hexNumber?_padZeros {digits : List Char} (width : Nat) :
    hexNumber? (padZeros width digits) = hexNumber? digits := by
  have hzeros : ∀ count, hexNumber? (List.replicate count '0' ++ digits) = hexNumber? digits := by
    intro count
    induction count with
    | zero => rfl
    | succ count ih => exact ih
  exact hzeros _

end Text

/-! ## Identifiers -/

namespace Uuid

theorem readHyphenated?_groups {a b c d e : List Char} (ha : a.length = 8) (hb : b.length = 4)
    (hc : c.length = 4) (hd : d.length = 4) (he : e.length = 12) :
    readHyphenated? (a ++ '-' :: b ++ '-' :: c ++ '-' :: d ++ '-' :: e) =
      readDigits? (a ++ b ++ c ++ d ++ e) := by
  unfold readHyphenated?
  rw [if_pos]
  · simp [List.drop_append, List.drop_eq_nil_of_le, ha, hb, hc, hd]
  · simp [List.getElem?_append, ha, hb, hc, hd, he]

theorem length_digits (uuid : Uuid) :
    (Text.padZeros 32 (Text.hexDigits uuid.bits.toNat)).length = 32 :=
  Text.length_padZeros ((Nat.length_toDigits_le_iff (by decide) (by decide)).mpr uuid.bits.isLt)

theorem readDigits?_digits (uuid : Uuid) :
    readDigits? (Text.padZeros 32 (Text.hexDigits uuid.bits.toNat)) = some uuid := by
  rw [readDigits?, if_pos (length_digits uuid), Text.hexNumber?_padZeros, Text.hexNumber?_hexDigits]
  simp

theorem read?_render (uuid : Uuid) : read? uuid.render = some uuid := by
  have hlength := length_digits uuid
  have hread := readDigits?_digits uuid
  unfold read? render
  generalize Text.padZeros 32 (Text.hexDigits uuid.bits.toNat) = digits at hlength hread
  have hgroups : digits.take 8 ++ (digits.drop 8).take 4 ++ (digits.drop 12).take 4 ++
      (digits.drop 16).take 4 ++ digits.drop 20 = digits := by
    simp only [← List.take_add, List.take_append_drop]
  have hwritten : (digits.take 8 ++ '-' :: (digits.drop 8).take 4 ++
      '-' :: (digits.drop 12).take 4 ++ '-' :: (digits.drop 16).take 4 ++
      '-' :: digits.drop 20).length = 36 := by
    simp [hlength]
  simp only [String.toList_ofList, hwritten]
  rw [readHyphenated?_groups (by simp [hlength]) (by simp [hlength]) (by simp [hlength])
    (by simp [hlength]) (by simp [hlength]), hgroups, hread]

end Uuid

end QueryBinding
