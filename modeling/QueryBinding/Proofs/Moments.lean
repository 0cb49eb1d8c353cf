import Mathlib.Data.Option.Basic
import QueryBinding.Proofs.Digits
import QueryBinding.Timestamp

/-!
# Timestamps read back

Every timestamp is read back from its text: years of more than four digits and negative
ones by their sign, leap seconds as second 60, and fractions in three, six or nine places.
-/

namespace QueryBinding

open QueryBinding.Text

namespace Timestamp

variable {most n : Nat} {digits rest : List Char} {c : Char}

/-! ## Numbers and marks -/

theorem readNumber?_append (hdigits : ∀ c ∈ digits, isDigit c = true) (hne : digits ≠ [])
    (htaken : ((digits ++ rest).take most).takeWhile isDigit = digits) :
    readNumber? most (digits ++ rest) = some (decimalValue digits, rest) := by
  have htrim : trimLeft (digits ++ rest) = digits ++ rest := by
    cases digits with
    | nil => exact absurd rfl hne
    | cons c cs => exact trimLeft_cons (isBlank_of_isDigit (hdigits c List.mem_cons_self)) _
  rw [readNumber?, htrim]
  simp [htaken, hne]

theorem readNumber?_of_length (hdigits : ∀ c ∈ digits, isDigit c = true)
    (hne : digits ≠ []) (rest : List Char) :
    readNumber? digits.length (digits ++ rest) = some (decimalValue digits, rest) := by
  apply readNumber?_append hdigits hne
  rw [List.take_left, List.takeWhile_eq_self_iff]
  exact hdigits

theorem readNumber?_of_stop (hdigits : ∀ c ∈ digits, isDigit c = true) (hne : digits ≠ [])
    (hc : isDigit c = false) (rest : List Char) :
    readNumber? (digits ++ c :: rest).length (digits ++ c :: rest) =
      some (decimalValue digits, c :: rest) := by
  apply readNumber?_append hdigits hne
  rw [List.take_length, List.takeWhile_append_of_pos hdigits]
  simp [hc]

theorem readNumber?_twoDigits (h : n < 100) (rest : List Char) :
    readNumber? 2 (twoDigits n ++ rest) = some (n, rest) := by
  have hlength : (twoDigits n).length = 2 :=
    length_padZeros (length_decimalDigits_le (by decide) (by simpa using h))
  have hdigits : ∀ c ∈ twoDigits n, isDigit c = true := fun c hc => isDigit_of_mem_padZeros hc
  have hread := readNumber?_of_length hdigits (padZeros_decimalDigits_ne_nil 2 n) rest
  have hvalue : decimalValue (twoDigits n) = n := decimalValue_padZeros 2 n
  rwa [hlength, hvalue] at hread

theorem readMark?_cons {mark : Char} (h : isBlank mark = false) (rest : List Char) :
    readMark? mark (mark :: rest) = some rest := by
  simp [readMark?, trimLeft_cons h]

/-! ## Years -/

theorem readYear?_unsigned (hdigits : ∀ c ∈ digits, isDigit c = true)
    (hlength : digits.length = 4) (rest : List Char) :
    readYear? (digits ++ rest) = some ((decimalValue digits : Int), rest) := by
  cases digits with
  | nil => cases hlength
  | cons c cs =>
      have hc := hdigits c List.mem_cons_self
      have hread := readNumber?_of_length hdigits (by simp) rest
      rw [hlength] at hread
      have hminus : c ≠ '-' := by
        rintro rfl
        cases hc
      have hplus : c ≠ '+' := by
        rintro rfl
        cases hc
      rw [List.cons_append] at hread ⊢
      rw [readYear?, trimLeft_cons (isBlank_of_isDigit hc)]
      split
      · next heq => exact absurd (List.cons.inj heq).1 hminus
      · next heq => exact absurd (List.cons.inj heq).1 hplus
      · rw [hread]
        rfl

theorem readYear?_signed (sign : Int) (hdigits : ∀ c ∈ digits, isDigit c = true)
    (hne : digits ≠ []) (rest : List Char) :
    readYear?.signed sign (digits ++ '-' :: rest) =
      some (sign * decimalValue digits, '-' :: rest) := by
  cases digits with
  | nil => exact absurd rfl hne
  | cons c cs =>
      have hc := hdigits c List.mem_cons_self
      have hread := readNumber?_of_stop hdigits hne (c := '-') rfl rest
      rw [List.cons_append] at hread ⊢
      simp only [readYear?.signed, hc, if_true, hread, Option.map_some]

theorem readYear?_renderYear (year : Int) (rest : List Char) :
    readYear? (renderYear year ++ '-' :: rest) = some (year, '-' :: rest) := by
  have hdigits : ∀ c ∈ padZeros 4 (decimalDigits year.natAbs), isDigit c = true :=
    fun c hc => isDigit_of_mem_padZeros hc
  have hne := padZeros_decimalDigits_ne_nil 4 year.natAbs
  have hvalue := decimalValue_padZeros 4 year.natAbs
  simp only [renderYear]
  split
  · next hfour =>
      have hlength : (padZeros 4 (decimalDigits year.natAbs)).length = 4 :=
        length_padZeros (length_decimalDigits_le (by decide) (by omega))
      rw [readYear?_unsigned hdigits hlength, hvalue]
      simp
      omega
  · next hsigned =>
      have hminus : ∀ cs, readYear? ('-' :: cs) = readYear?.signed (-1) cs := fun _ => rfl
      have hplus : ∀ cs, readYear? ('+' :: cs) = readYear?.signed 1 cs := fun _ => rfl
      by_cases hnegative : year < 0
      · rw [if_pos hnegative, List.cons_append, hminus, readYear?_signed (-1) hdigits hne, hvalue]
        congr 2
        omega
      · rw [if_neg hnegative, List.cons_append, hplus, readYear?_signed 1 hdigits hne, hvalue]
        congr 2
        omega

/-! ## Fractions -/

theorem readFraction?_padZeros {width n : Nat} (hwidth : 0 < width) (hplaces : width ≤ 9)
    (h : n < 10 ^ width) :
    readFraction? ('.' :: padZeros width (decimalDigits n)) = some (n * 10 ^ (9 - width), []) := by
  have hdigits : ∀ c ∈ padZeros width (decimalDigits n), isDigit c = true :=
    fun c hc => isDigit_of_mem_padZeros hc
  have hne := padZeros_decimalDigits_ne_nil width n
  have htaken : (padZeros width (decimalDigits n)).takeWhile isDigit =
      padZeros width (decimalDigits n) := List.takeWhile_eq_self_iff.mpr hdigits
  have hdropped : (padZeros width (decimalDigits n)).dropWhile isDigit = [] :=
    List.dropWhile_eq_nil_iff.mpr hdigits
  have hvalue := fractionValue_padZeros hwidth hplaces h
  simp only [readFraction?, htaken, hdropped, hvalue]
  rw [if_neg]
  simpa using hne

theorem readFraction?_renderFraction (nanosecond : Nat) :
    readFraction? (renderFraction nanosecond) = some (nanosecond % 1000000000, []) := by
  have hbound := Nat.mod_lt nanosecond (by decide : 0 < 1000000000)
  simp only [renderFraction]
  generalize nanosecond % 1000000000 = n at hbound
  split
  · next hn =>
      rw [hn]
      rfl
  · split
    · next hmillis =>
        rw [readFraction?_padZeros (by decide) (by decide) (by omega)]
        congr 2
        omega
    · split
      · next hmicros =>
          rw [readFraction?_padZeros (by decide) (by decide) (by omega)]
          congr 2
          omega
      · rw [readFraction?_padZeros (by decide) (by decide) (by omega)]
        simp

/-! ## Timestamps -/

theorem two_digits_of_isDate {year : Int} {month day : Nat}
    (h : Calendar.isDate year month day = true) : month < 100 ∧ day < 100 := by
  simp only [Calendar.isDate, Bool.and_eq_true, decide_eq_true_eq] at h
  obtain ⟨⟨⟨-, hmonth⟩, -⟩, hday⟩ := h
  have hdays : Calendar.daysInMonth year month ≤ 31 := by
    unfold Calendar.daysInMonth
    split
    · split <;> decide
    all_goals decide
  omega

theorem of?_of_second (t : Timestamp) :
    (if t.second + t.nanosecond / 1000000000 = 60 then
        of? t.year t.month t.day t.hour t.minute 59 (1000000000 + t.nanosecond % 1000000000)
      else
        of? t.year t.month t.day t.hour t.minute (t.second + t.nanosecond / 1000000000)
          (t.nanosecond % 1000000000)) = some t := by
  obtain ⟨year, month, day, hour, minute, second, nanosecond, hmoment⟩ := t
  have hsecond := hmoment.2.2.2.2.1
  have hnanosecond := hmoment.2.2.2.2.2
  simp only
  split
  · next hleap =>
      have h59 : second = 59 := by
        split at hnanosecond <;> omega
      have hwhole : 1000000000 + nanosecond % 1000000000 = nanosecond := by
        rw [if_pos h59] at hnanosecond
        omega
      rw [hwhole, ← h59, of?, dif_pos hmoment]
  · next hplain =>
      have hsmall : nanosecond < 1000000000 := by
        split at hnanosecond <;> omega
      have hsame : second + nanosecond / 1000000000 = second := by omega
      have hsame' : nanosecond % 1000000000 = nanosecond := by omega
      rw [hsame, hsame', of?, dif_pos hmoment]

theorem read?_renderWith (t : Timestamp) : read? (t.renderWith 'T') = some t := by
  obtain ⟨-, hdate, hhour, hminute, hsecond, hnanosecond⟩ := t.isMoment
  obtain ⟨hmonth, hday⟩ := two_digits_of_isDate hdate
  have hwritten : t.second + t.nanosecond / 1000000000 < 100 := by
    split at hnanosecond <;> omega
  have hdash : isBlank '-' = false := rfl
  have hletter : isBlank 'T' = false := rfl
  have hcolon : isBlank ':' = false := rfl
  rw [read?, renderWith, String.toList_ofList]
  simp only [List.append_assoc, List.cons_append, readYear?_renderYear, Option.bind_some,
    readMark?_cons hdash, readMark?_cons hletter, readMark?_cons hcolon,
    readNumber?_twoDigits hmonth, readNumber?_twoDigits hday,
    readNumber?_twoDigits (by omega : t.hour < 100),
    readNumber?_twoDigits (by omega : t.minute < 100), readNumber?_twoDigits hwritten,
    readFraction?_renderFraction, bind]
  exact of?_of_second t

end Timestamp

end QueryBinding
