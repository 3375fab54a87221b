import Mathlib.Tactic.IntervalCases
import JobControl.Text.Utf8

/-!
# Texts as bytes

A text that is written as bytes and read back is the same text.  The bytes of a character that is
not ASCII are all beyond it, so a line feed or a NUL among the bytes is one in the text.

## Main results

* `Text.ofBytes_toBytes` — **the text that the bytes of a text encode is that text.**
* `Text.ofNat_mem_toBytes_iff` — the byte of an ASCII character is among the bytes of a text if the
  character is in the text.
-/

namespace JobControl.Text

/-! ### Bytes of a text -/

theorem toBytes_append (s t : String) : toBytes (s ++ t) = toBytes s ++ toBytes t := by
  rw [toBytes, String.toList_append, List.flatMap_append]
  rfl

/-! ### One character -/

theorem toNat_ofNat {n : Nat} (h : n < 256) : (UInt8.ofNat n).toNat = n := by
  rw [UInt8.toNat_ofNat', Nat.mod_eq_of_lt h]

theorem lead?_one {n : Nat} (h : n < 0x80) : lead? (UInt8.ofNat n) = some ⟨n, []⟩ := by
  rw [lead?, toNat_ofNat (by omega)]
  exact if_pos h

/-- The first of two bytes. -/
theorem lead?_two {m : Nat} (low : 2 ≤ m) (high : m < 32) :
    lead? (UInt8.ofNat (m + 0xc0)) = some ⟨m, [(0x80, 0xbf)]⟩ := by
  interval_cases m <;> rfl

/-- The first of three bytes.  The second one is restricted where there is a shorter form, and where
there are no characters. -/
theorem lead?_three {m : Nat} (high : m < 16) :
    lead? (UInt8.ofNat (m + 0xe0)) = some ⟨m,
      [(if m = 0 then 0xa0 else 0x80, if m = 13 then 0x9f else 0xbf), (0x80, 0xbf)]⟩ := by
  interval_cases m <;> rfl

/-- The first of four bytes. -/
theorem lead?_four {m : Nat} (high : m < 5) :
    lead? (UInt8.ofNat (m + 0xf0)) = some ⟨m,
      [(if m = 0 then 0x90 else 0x80, if m = 4 then 0x8f else 0xbf), (0x80, 0xbf),
        (0x80, 0xbf)]⟩ := by
  interval_cases m <;> rfl

theorem follow_cons {bits low high k : Nat} {ranges : List (Nat × Nat)} {bs : List UInt8}
    {result : Option Nat × List UInt8} (small : k < 64) (above : low ≤ k + 0x80)
    (below : k + 0x80 ≤ high) (others : follow (bits * 64 + k) ranges bs = result) :
    follow bits ((low, high) :: ranges) (UInt8.ofNat (k + 0x80) :: bs) = result := by
  rw [follow, toNat_ofNat (by omega), if_pos ⟨above, below⟩, Nat.add_sub_cancel, others]

theorem follow_nil {bits n : Nat} (bs : List UInt8) (h : bits = n) :
    follow bits [] bs = (some n, bs) := by
  rw [follow, h]

theorem decode_cons {b : UInt8} {bs rest : List UInt8} {bits n : Nat} {follows : List (Nat × Nat)}
    (first : lead? b = some ⟨bits, follows⟩) (others : follow bits follows bs = (some n, rest)) :
    decode (b :: bs) = Char.ofNat n :: decode rest := by
  rw [decode, first]
  dsimp only
  rw [others]

/-- **A character is read from its bytes.** -/
theorem decode_utf8EncodeChar_append (c : Char) (bs : List UInt8) :
    decode (String.utf8EncodeChar c ++ bs) = c :: decode bs := by
  have read : decode (String.utf8EncodeChar c ++ bs) = Char.ofNat c.toNat :: decode bs := by
    have valid : c.toNat < 0xd800 ∨ (0xdfff < c.toNat ∧ c.toNat < 0x110000) := c.valid
    have code : c.val.toNat = c.toNat := rfl
    rw [String.utf8EncodeChar, code]
    generalize c.toNat = n at valid ⊢
    -- one case for each length; what is left is that the bits in the bytes make up the code point
    split
    · exact decode_cons (lead?_one (by omega)) rfl
    split
    · have first := lead?_two (m := n / 64 % 32) (by omega) (by omega)
      refine decode_cons first (follow_cons ?_ ?_ ?_ (follow_nil bs ?_)) <;> omega
    split
    · have first := lead?_three (m := n / 4096 % 16) (by omega)
      refine decode_cons first
        (follow_cons ?_ ?_ ?_ (follow_cons ?_ ?_ ?_ (follow_nil bs ?_)))
      all_goals
        try split
        all_goals omega
    · have first := lead?_four (m := n / 262144 % 8) (by omega)
      refine decode_cons first
        (follow_cons ?_ ?_ ?_ (follow_cons ?_ ?_ ?_ (follow_cons ?_ ?_ ?_ (follow_nil bs ?_))))
      all_goals
        try split
        all_goals omega
  rw [read, Char.ofNat_toNat]

/-- **The text that the bytes of a text encode is that text.** -/
theorem ofBytes_toBytes (s : String) : ofBytes (toBytes s) = s := by
  have all : ∀ cs : List Char, decode (cs.flatMap String.utf8EncodeChar) = cs := by
    intro cs
    induction cs with
    | nil => rw [List.flatMap_nil, decode]
    | cons c cs ih => rw [List.flatMap_cons, decode_utf8EncodeChar_append, ih]
  rw [ofBytes, toBytes, all, String.ofList_toList]

/-! ### ASCII -/

theorem ofNat_eq_ofNat_iff {m n : Nat} (hm : m < 256) (hn : n < 256) :
    UInt8.ofNat m = UInt8.ofNat n ↔ n = m := by
  rw [eq_comm, ← UInt8.toNat_inj, toNat_ofNat hm, toNat_ofNat hn]

/-- All bytes of a longer character are beyond ASCII. -/
theorem ofNat_mem_utf8EncodeChar_iff {a c : Char} (ascii : a.toNat < 0x80) :
    UInt8.ofNat a.toNat ∈ String.utf8EncodeChar c ↔ a = c := by
  have code : c.val.toNat = c.toNat := rfl
  have same : a = c ↔ c.toNat = a.toNat := ⟨fun h => h ▸ rfl, fun h => by
    rw [← Char.ofNat_toNat c, h, Char.ofNat_toNat]⟩
  rw [same, String.utf8EncodeChar, code]
  generalize c.toNat = n, a.toNat = m at ascii
  split
  · rw [List.mem_singleton, ofNat_eq_ofNat_iff (by omega) (by omega)]
  split
  · simp only [List.mem_cons, List.not_mem_nil, or_false]
    rw [ofNat_eq_ofNat_iff (by omega) (by omega), ofNat_eq_ofNat_iff (by omega) (by omega)]
    omega
  split
  · simp only [List.mem_cons, List.not_mem_nil, or_false]
    rw [ofNat_eq_ofNat_iff (by omega) (by omega), ofNat_eq_ofNat_iff (by omega) (by omega),
      ofNat_eq_ofNat_iff (by omega) (by omega)]
    omega
  · simp only [List.mem_cons, List.not_mem_nil, or_false]
    rw [ofNat_eq_ofNat_iff (by omega) (by omega), ofNat_eq_ofNat_iff (by omega) (by omega),
      ofNat_eq_ofNat_iff (by omega) (by omega), ofNat_eq_ofNat_iff (by omega) (by omega)]
    omega

/-- **The byte of an ASCII character is among the bytes of a text if the character is in it.** -/
theorem ofNat_mem_toBytes_iff {a : Char} (ascii : a.toNat < 0x80) (s : String) :
    UInt8.ofNat a.toNat ∈ toBytes s ↔ a ∈ s.toList := by
  simp only [toBytes, List.mem_flatMap, ofNat_mem_utf8EncodeChar_iff ascii]
  exact ⟨fun ⟨_, hc, same⟩ => same ▸ hc, fun h => ⟨_, h, rfl⟩⟩

theorem lineFeed_mem_toBytes_iff (s : String) : 10 ∈ toBytes s ↔ '\n' ∈ s.toList :=
  ofNat_mem_toBytes_iff (a := '\n') (by decide) s

theorem nul_mem_toBytes_iff (s : String) : 0 ∈ toBytes s ↔ hasNul s = true := by
  rw [hasNul, List.contains_iff_mem]
  exact ofNat_mem_toBytes_iff (a := '\x00') (by decide) s

/-- A text holds a NUL character if and only if its bytes hold a NUL byte. -/
theorem hasNulByte_toBytes (s : String) : hasNulByte (toBytes s) = hasNul s := by
  rw [Bool.eq_iff_iff, hasNulByte, List.contains_iff_mem, nul_mem_toBytes_iff]

end JobControl.Text
