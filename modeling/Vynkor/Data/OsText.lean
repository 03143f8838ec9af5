import Vynkor.Data.TextField

/-! Texts of the operating system, which are bytes and need not be UTF-8. -/

namespace OsText

def decode (bytes : List UInt8) : Option String := String.fromUTF8? ⟨bytes.toArray⟩

/-- How many bytes have to follow a leading byte, and between which bounds the first of
them is. -/
def following (lead : UInt8) : Option (Nat × UInt8 × UInt8) :=
  if 0xC2 ≤ lead ∧ lead ≤ 0xDF then some (1, 0x80, 0xBF)
  else if lead = 0xE0 then some (2, 0xA0, 0xBF)
  else if lead = 0xED then some (2, 0x80, 0x9F)
  else if 0xE1 ≤ lead ∧ lead ≤ 0xEF then some (2, 0x80, 0xBF)
  else if lead = 0xF0 then some (3, 0x90, 0xBF)
  else if lead = 0xF4 then some (3, 0x80, 0x8F)
  else if 0xF1 ≤ lead ∧ lead ≤ 0xF3 then some (3, 0x80, 0xBF)
  else none

def continues (byte : UInt8) : Bool := 0x80 ≤ byte && byte ≤ 0xBF

/-- The bytes that continue a character, as far as they do. -/
def continuation (count : Nat) (low high : UInt8) : List UInt8 → List UInt8
  | [] => []
  | first :: rest => if low ≤ first ∧ first ≤ high then first :: (rest.take (count - 1)).takeWhile continues else []

def leadBits (lead : UInt8) (count : Nat) : Nat :=
  lead.toNat - match count with
    | 1 => 0xC0
    | 2 => 0xE0
    | _ => 0xF0

def replacement : Char := Char.ofNat 0xFFFD

/-- Reads as much as there is fuel for; what is no character becomes a replacement
character. -/
def lossyChars : Nat → List UInt8 → List Char
  | 0, _ | _ + 1, [] => []
  | fuel + 1, lead :: rest =>
    if lead < 0x80 then Char.ofNat lead.toNat :: lossyChars fuel rest
    else
      match following lead with
      | none => replacement :: lossyChars fuel rest
      | some (count, low, high) =>
        let taken := continuation count low high rest
        let char := if taken.length = count then
            Char.ofNat (taken.foldl (fun value byte => 64 * value + (byte.toNat - 0x80)) (leadBits lead count))
          else replacement
        char :: lossyChars fuel (rest.drop taken.length)

def lossy (bytes : List UInt8) : String :=
  (decode bytes).getD (String.ofList (lossyChars bytes.length bytes))

@[simp] theorem decode_encode (text : String) : decode (TextField.encode text) = some text :=
  TextField.fromUTF8_encode text

end OsText
