/-!
# Byte order

Texts are ordered by the numbers of their characters.  This is the order of their
UTF-8 bytes: a greater character has a greater lead byte, or else it is written in
as many bytes and the first that differs is greater.
-/

namespace QueryBinding.Text

def bytes (text : String) : List UInt8 :=
  text.toUTF8.data.toList

theorem bytes_eq_flatMap (text : String) :
    bytes text = text.toList.flatMap String.utf8EncodeChar := by
  have hencode : text.toUTF8 = (text.toList.flatMap String.utf8EncodeChar).toByteArray :=
    String.utf8Encode_toList.symm
  rw [bytes, hencode, List.toList_data_toByteArray]

theorem utf8EncodeChar_append_lt {c d : Char} (h : c < d) (s t : List UInt8) :
    String.utf8EncodeChar c ++ s < String.utf8EncodeChar d ++ t := by
  have hcd : c.val.toNat < d.val.toNat := h
  have hd : d.val.toNat < 0x110000 := by
    have hvalid := d.valid
    simp only [UInt32.isValidChar, Nat.isValidChar] at hvalid
    omega
  unfold String.utf8EncodeChar
  dsimp only
  generalize c.val.toNat = m at *
  generalize d.val.toNat = n at *
  have h4096 : ∀ k : Nat, k / 4096 = k / 64 / 64 := by omega
  have h262144 : ∀ k : Nat, k / 262144 = k / 64 / 64 / 64 := by omega
  repeat' split
  all_goals simp only [List.cons_append, List.nil_append, List.cons_lt_cons_iff,
    UInt8.lt_iff_toNat_lt, ← UInt8.toNat_inj, UInt8.toNat_ofNat', h4096, h262144]
  all_goals simp (disch := omega) only [Nat.mod_eq_of_lt]
  all_goals omega

theorem flatMap_utf8EncodeChar_lt {chars others : List Char} (h : chars < others) :
    chars.flatMap String.utf8EncodeChar < others.flatMap String.utf8EncodeChar := by
  induction h with
  | @nil c rest =>
      have hne : String.utf8EncodeChar c ++ rest.flatMap String.utf8EncodeChar ≠ [] := by
        simp [String.utf8EncodeChar_ne_nil]
      rw [List.flatMap_nil, List.flatMap_cons]
      obtain ⟨byte, bytes, hbytes⟩ := List.exists_cons_of_ne_nil hne
      rw [hbytes]
      exact List.nil_lt_cons byte bytes
  | @rel c rest d rest' h => exact utf8EncodeChar_append_lt h _ _
  | @cons c rest rest' h ih =>
      rw [List.flatMap_cons, List.flatMap_cons]
      exact List.append_left_lt ih

theorem bytes_lt_bytes {text other : String} (h : text < other) : bytes text < bytes other := by
  rw [bytes_eq_flatMap, bytes_eq_flatMap]
  exact flatMap_utf8EncodeChar_lt (String.lt_iff.mp h)

theorem bytes_le_bytes_iff {text other : String} : bytes text ≤ bytes other ↔ text ≤ other := by
  constructor
  · intro h
    rw [← String.not_lt]
    intro hlt
    exact List.not_lt.mpr h (bytes_lt_bytes hlt)
  · intro h
    by_cases heq : text = other
    · rw [heq]
      exact List.le_refl (bytes other)
    · have hlt : text < other := by
        rw [← String.not_le]
        intro hle
        exact heq (String.le_antisymm h hle)
      exact List.le_of_lt (bytes_lt_bytes hlt)

end QueryBinding.Text
