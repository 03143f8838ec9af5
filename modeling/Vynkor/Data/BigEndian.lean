import Mathlib.Data.List.Basic

/-! Numbers as bytes, the most significant byte first. -/

namespace BigEndian

/-- The lowest bytes of a number, as many as the width says. -/
def bytes : Nat → Nat → List UInt8
  | 0, _ => []
  | width + 1, number => bytes width (number / 256) ++ [UInt8.ofNat number]

def value (bytes : List UInt8) : Nat := bytes.foldl (fun number byte => number * 256 + byte.toNat) 0

@[simp] theorem length_bytes (width number : Nat) : (bytes width number).length = width := by
  induction width generalizing number with
  | zero => rfl
  | succ width ih => simp [bytes, ih]

theorem value_snoc (bytes : List UInt8) (byte : UInt8) : value (bytes ++ [byte]) = value bytes * 256 + byte.toNat := by
  simp [value]

theorem value_bytes_succ (width number : Nat) :
    value (bytes (width + 1) number) = value (bytes width (number / 256)) * 256 + number % 256 := by
  rw [bytes, value_snoc, UInt8.toNat_ofNat']

theorem value_bytes_two (number : Nat) : value (bytes 2 number) = number % 65536 := by
  have empty : value (bytes 0 (number / 256 / 256)) = 0 := rfl
  rw [value_bytes_succ, value_bytes_succ, empty]
  omega

theorem value_bytes_four (number : Nat) : value (bytes 4 number) = number % 4294967296 := by
  rw [value_bytes_succ, value_bytes_succ, value_bytes_two]
  omega

end BigEndian
