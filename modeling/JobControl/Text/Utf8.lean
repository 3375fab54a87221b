/-!
# Bytes as text

Bytes read as UTF-8.  A byte that begins no character, or the longest beginning of a character that
is not completed, stands for one replacement character.

## Main definitions

* `Text.Lead`, `Text.lead?` — what the first byte of a character says of those that follow.
* `Text.follow` — reading the bytes that follow.
* `Text.decode` — bytes as characters.
* `Text.ofBytes`, `Text.toBytes` — texts and bytes.
* `Text.ofBytes?` — the text of bytes that all belong to characters.
* `Text.hasNul`, `Text.hasNulByte` — what the system would cut off.
-/

namespace JobControl.Text

/-- What the first byte of a character says: the bits it gives, and the ranges of the bytes that
follow. -/
structure Lead where
  bits : Nat
  follows : List (Nat × Nat)

/-- What a byte says as the first of a character. -/
def lead? (b : UInt8) : Option Lead :=
  let n := b.toNat
  let any := (0x80, 0xbf)
  if n < 0x80 then some ⟨n, []⟩
  else if n < 0xc2 then none
  else if n < 0xe0 then some ⟨n - 0xc0, [any]⟩
  else if n = 0xe0 then some ⟨0, [(0xa0, 0xbf), any]⟩
  else if n = 0xed then some ⟨0xd, [(0x80, 0x9f), any]⟩
  else if n < 0xf0 then some ⟨n - 0xe0, [any, any]⟩
  else if n = 0xf0 then some ⟨0, [(0x90, 0xbf), any, any]⟩
  else if n < 0xf4 then some ⟨n - 0xf0, [any, any, any]⟩
  else if n = 0xf4 then some ⟨4, [(0x80, 0x8f), any, any]⟩
  else none

/-- Reads the bytes that follow: the code point if all are in their ranges, and the rest from the
first byte that is not. -/
def follow (bits : Nat) : List (Nat × Nat) → List UInt8 → Option Nat × List UInt8
  | [], bs => (some bits, bs)
  | _ :: _, [] => (none, [])
  | (low, high) :: ranges, b :: bs =>
    if low ≤ b.toNat ∧ b.toNat ≤ high then follow (bits * 64 + (b.toNat - 0x80)) ranges bs
    else (none, b :: bs)

theorem length_follow_le (bits : Nat) (ranges : List (Nat × Nat)) (bs : List UInt8) :
    (follow bits ranges bs).2.length ≤ bs.length := by
  fun_induction follow bits ranges bs with
  | case1 bits bs => exact Nat.le_refl _
  | case2 bits range ranges => exact Nat.le_refl _
  | case3 bits low high ranges b bs _ ih => exact Nat.le_succ_of_le ih
  | case4 bits low high ranges b bs _ => exact Nat.le_refl _

/-- The character that stands for bytes that are none. -/
def replacement : Char := '\ufffd'

/-- The characters that bytes encode. -/
def decode : List UInt8 → List Char
  | [] => []
  | b :: bs =>
    match lead? b with
    | none => replacement :: decode bs
    | some lead =>
      match (follow lead.bits lead.follows bs).1 with
      | some n => Char.ofNat n :: decode (follow lead.bits lead.follows bs).2
      | none => replacement :: decode (follow lead.bits lead.follows bs).2
termination_by bs => bs.length
decreasing_by
  · simp
  all_goals
    have := length_follow_le lead.bits lead.follows bs
    simp only [List.length_cons]
    omega

/-- The text that bytes encode. -/
def ofBytes (bs : List UInt8) : String := String.ofList (decode bs)

/-- The bytes of a text. -/
def toBytes (s : String) : List UInt8 := s.toList.flatMap String.utf8EncodeChar

/-- The text that bytes encode, if they are the bytes of a text. -/
def ofBytes? (bs : List UInt8) : Option String :=
  if toBytes (ofBytes bs) = bs then some (ofBytes bs) else none

/-- Whether a text holds a NUL character, at which the system's texts end. -/
def hasNul (s : String) : Bool := s.toList.contains '\x00'

/-- Whether bytes hold a NUL byte. -/
def hasNulByte (bs : List UInt8) : Bool := bs.contains 0

theorem hasNulByte_eq_false_iff {bs : List UInt8} : hasNulByte bs = false ↔ 0 ∉ bs := by
  rw [hasNulByte, ← Bool.not_eq_true, List.contains_iff_mem]

end JobControl.Text
