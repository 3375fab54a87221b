import JobControl.Text.Utf8

/-!
# Octets

A run of bytes as a text: each byte is written as the character that has its number.  The machine
and its programs know names, arguments and lines only in this form, in which every byte is a
character and nothing has to be valid.

## Main definitions

* `Text.ofOctets`, `Text.toOctets` — a text and the octets that encode it.
* `Text.octetsOf`, `Text.bytesOf` — bytes and octets.

## Main results

* `Text.bytesOf_octetsOf` — bytes written as octets are those bytes.
-/

namespace JobControl.Text

/-- A byte as a character. -/
def octet (b : UInt8) : Char := Char.ofNat b.toNat

/-- Bytes as octets. -/
def octetsOf (bytes : List UInt8) : String := String.ofList (bytes.map octet)

/-- The bytes that octets stand for. -/
def bytesOf (octets : String) : List UInt8 := octets.toList.map fun c => c.toNat.toUInt8

/-- The octets that encode a text. -/
def toOctets (text : String) : String := octetsOf (toBytes text)

/-- The text that octets encode. -/
def ofOctets (octets : String) : String := ofBytes (bytesOf octets)

/-- Octets as an array of bytes. -/
def octetArray (octets : String) : ByteArray := ⟨(bytesOf octets).toArray⟩

/-- The octets of an array of bytes. -/
def ofArray (bytes : ByteArray) : String := octetsOf bytes.toList

theorem toNat_octet (b : UInt8) : (octet b).toNat.toUInt8 = b := by
  have small : b.toNat < 0xd800 := Nat.lt_of_lt_of_le b.toNat_lt (by decide)
  have valid : b.toNat.isValidChar := Or.inl small
  rw [octet, Char.ofNat, dif_pos valid]
  exact UInt8.ofNat_toNat

theorem bytesOf_octetsOf (bytes : List UInt8) : bytesOf (octetsOf bytes) = bytes := by
  have each : (fun c : Char => c.toNat.toUInt8) ∘ octet = id := funext toNat_octet
  rw [bytesOf, octetsOf, String.toList_ofList, List.map_map, each, List.map_id]

end JobControl.Text
