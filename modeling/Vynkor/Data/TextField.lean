import Mathlib.Data.List.DropRight

/-! Texts in fields of fixed width: cut to the width or padded with NULs, and read
back without the trailing NULs. -/

namespace TextField
variable {width : Nat} {text : String} {bytes : List UInt8} {char : Char}

def encode (text : String) : List UInt8 := text.toUTF8.data.toList

def pack (width : Nat) (text : String) : List UInt8 :=
  (encode text).take width ++ List.replicate (width - ((encode text).take width).length) 0

def trimmed (bytes : List UInt8) : List UInt8 := bytes.rdropWhile (· == 0)

/-- The field without its trailing NULs, when that is UTF-8. -/
def read (field : List UInt8) : Option String := String.fromUTF8? ⟨(trimmed field).toArray⟩

/-- The text has room in the field and does not end like the padding. -/
def Fits (width : Nat) (text : String) : Prop := text.utf8ByteSize ≤ width ∧ text.toList.getLast? ≠ some (Char.ofNat 0)

instance : Decidable (Fits width text) := inferInstanceAs (Decidable (_ ∧ _))

theorem length_encode (text : String) : (encode text).length = text.utf8ByteSize := rfl

theorem fromUTF8_encode (text : String) : String.fromUTF8? ⟨(encode text).toArray⟩ = some text := by
  have whole : (⟨(encode text).toArray⟩ : ByteArray) = text.toUTF8 := by simp [encode]
  rw [whole]
  simp [String.fromUTF8?, String.fromUTF8, text.isValidUTF8]

theorem encode_of_fromUTF8 (decoded : String.fromUTF8? ⟨bytes.toArray⟩ = some text) : encode text = bytes := by
  simp only [String.fromUTF8?] at decoded
  split at decoded
  next valid =>
    cases decoded
    simp [encode, String.fromUTF8]
  · cases decoded

theorem encode_flatMap (text : String) : encode text = text.toList.flatMap String.utf8EncodeChar := by
  have shape : (String.ofList text.toList).toByteArray = (text.toList.flatMap String.utf8EncodeChar).toByteArray := rfl
  rw [String.ofList_toList] at shape
  rw [encode, String.toUTF8_eq_toByteArray, shape, List.data_toByteArray]

/-- The last byte of a character is zero only when the character is NUL. -/
theorem utf8EncodeChar_last (char : Char) : ∃ start value, String.utf8EncodeChar char = start ++ [UInt8.ofNat value] ∧
    value < 256 ∧ (value = 0 ↔ char.val.toNat = 0) := by
  rw [String.utf8EncodeChar]
  split
  next small => exact ⟨[], _, rfl, by omega, Iff.rfl⟩
  next large =>
    split
    · exact ⟨[_], _, rfl, by omega, by omega⟩
    · split
      · exact ⟨[_, _], _, rfl, by omega, by omega⟩
      · exact ⟨[_, _, _], _, rfl, by omega, by omega⟩

theorem ofNat_eq_zero_iff {value : Nat} (small : value < 256) : UInt8.ofNat value = 0 ↔ value = 0 := by
  rw [← UInt8.toNat_inj, UInt8.toNat_ofNat', Nat.mod_eq_of_lt small]
  rfl

theorem eq_nul_iff : char = Char.ofNat 0 ↔ char.val.toNat = 0 := by
  rw [Char.ext_iff, ← UInt32.toNat_inj]
  rfl

theorem getLast_encode (text : String) :
    (encode text).getLast? = some 0 ↔ text.toList.getLast? = some (Char.ofNat 0) := by
  rw [encode_flatMap]
  rcases List.eq_nil_or_concat' text.toList with none | ⟨chars, last, shape⟩
  · simp [none]
  · obtain ⟨start, value, ends, small, zero⟩ := utf8EncodeChar_last last
    rw [shape]
    simp only [List.flatMap_append, List.flatMap_cons, List.flatMap_nil, List.append_nil, ends, ← List.append_assoc,
      List.getLast?_concat, Option.some.injEq]
    rw [ofNat_eq_zero_iff small, eq_nul_iff, zero]

theorem trimmed_padded (bytes : List UInt8) (count : Nat) :
    trimmed (bytes ++ List.replicate count 0) = trimmed bytes := by
  induction count with
  | zero => simp
  | succ count ih =>
    rw [List.replicate_succ', ← List.append_assoc, trimmed, List.rdropWhile_concat_pos _ _ _ rfl]
    exact ih

theorem trimmed_eq_self_iff : trimmed bytes = bytes ↔ bytes.getLast? ≠ some 0 := by
  rw [trimmed, List.rdropWhile_eq_self_iff]
  rcases List.eq_nil_or_concat' bytes with rfl | ⟨start, last, rfl⟩
  · simp
  · simp

theorem trimmed_trimmed (bytes : List UInt8) : trimmed (trimmed bytes) = trimmed bytes :=
  List.rdropWhile_idempotent _ _

theorem trimmed_pack (width : Nat) (text : String) : trimmed (pack width text) = trimmed ((encode text).take width) :=
  trimmed_padded _ _

theorem length_trimmed_pack_le (width : Nat) (text : String) : (trimmed (pack width text)).length ≤ width := by
  rw [trimmed_pack]
  calc (trimmed ((encode text).take width)).length
      ≤ ((encode text).take width).length := (List.rdropWhile_prefix _ _).length_le
    _ ≤ width := List.length_take_le _ _

theorem read_pack_iff : read (pack width text) = some text ↔ Fits width text := by
  constructor
  · intro back
    have whole : encode text = trimmed (pack width text) := encode_of_fromUTF8 back
    constructor
    · rw [← length_encode, whole]
      exact length_trimmed_pack_le width text
    · rw [Ne, ← getLast_encode, ← Ne, ← trimmed_eq_self_iff, whole, trimmed_trimmed]
  · rintro ⟨room, solid⟩
    rw [Ne, ← getLast_encode, ← Ne, ← trimmed_eq_self_iff] at solid
    have room : (encode text).length ≤ width := room
    rw [read, trimmed_pack, List.take_of_length_le room, solid, fromUTF8_encode]

end TextField
