import Mathlib.Data.List.Basic
import Mathlib.Tactic.SplitIfs

/-!
# UTF-8 with replacement

The decoder of `bytes.decode("utf-8", errors="replace")`.  The encoder is Lean's.

* `decode` replaces each longest run of bytes that starts a character and does not
  complete it, and each byte that starts none, by one replacement character.
* `decode_encode` is the round trip.
-/

namespace Python
namespace Utf8

/-- `str.encode("utf-8")`. -/
def encode (cs : List Char) : List UInt8 :=
  cs.flatMap String.utf8EncodeChar

/-- `U+FFFD`. -/
def replacement : Char := Char.ofNat 0xfffd

/-- What the first byte of a character says: how many bytes follow, the range of the
first of these, and the bits of the first byte itself. -/
def lead (n : Nat) : Option (Nat × Nat × Nat × Nat) :=
  if n < 0x80 then some (0, 0x80, 0xbf, n)
  else if n < 0xc2 then none
  else if n < 0xe0 then some (1, 0x80, 0xbf, n - 0xc0)
  else if n = 0xe0 then some (2, 0xa0, 0xbf, 0)
  else if n = 0xed then some (2, 0x80, 0x9f, 0xd)
  else if n < 0xf0 then some (2, 0x80, 0xbf, n - 0xe0)
  else if n = 0xf0 then some (3, 0x90, 0xbf, 0)
  else if n < 0xf4 then some (3, 0x80, 0xbf, n - 0xf0)
  else if n = 0xf4 then some (3, 0x80, 0x8f, 4)
  else none

/-- The bytes behind the first one: the character, or its replacement, and the bytes
that are left. -/
def continued : Nat → Nat → Nat → Nat → List UInt8 → Char × List UInt8
  | 0, _, _, bits, bytes => (Char.ofNat bits, bytes)
  | _ + 1, _, _, _, [] => (replacement, [])
  | count + 1, low, high, bits, b :: bytes =>
      if low ≤ b.toNat ∧ b.toNat ≤ high then
        continued count 0x80 0xbf (64 * bits + b.toNat % 64) bytes
      else
        (replacement, b :: bytes)

/-- The character that starts with a byte. -/
def decodeChar (b : UInt8) (bytes : List UInt8) : Char × List UInt8 :=
  match lead b.toNat with
  | some (count, low, high, bits) => continued count low high bits bytes
  | none => (replacement, bytes)

theorem length_continued_le (count low high bits : Nat) (bytes : List UInt8) :
    (continued count low high bits bytes).2.length ≤ bytes.length := by
  induction count generalizing low high bits bytes with
  | zero => simp [continued]
  | succ count ih =>
      cases bytes with
      | nil => simp [continued]
      | cons b bytes =>
          rw [continued]
          split_ifs
          · have := ih 0x80 0xbf (64 * bits + b.toNat % 64) bytes
            rw [List.length_cons]
            omega
          · simp

theorem length_decodeChar_le (b : UInt8) (bytes : List UInt8) :
    (decodeChar b bytes).2.length ≤ bytes.length := by
  unfold decodeChar
  split
  · exact length_continued_le _ _ _ _ _
  · simp

/-- `bytes.decode("utf-8", errors="replace")`. -/
def decode : List UInt8 → List Char
  | [] => []
  | b :: bytes => (decodeChar b bytes).1 :: decode (decodeChar b bytes).2
termination_by bytes => bytes.length
decreasing_by
  have := length_decodeChar_le b bytes
  simp only [List.length_cons]
  omega

@[simp] theorem decode_nil : decode [] = [] := by
  rw [decode]

theorem decode_cons (b : UInt8) (bytes : List UInt8) :
    decode (b :: bytes) = (decodeChar b bytes).1 :: decode (decodeChar b bytes).2 := by
  rw [decode]

theorem decode_ne_nil {bytes : List UInt8} (h : bytes ≠ []) : decode bytes ≠ [] := by
  cases bytes with
  | nil => exact absurd rfl h
  | cons b bytes => simp [decode_cons]

/-! ## The round trip -/

theorem toNat_ofNat_of_lt {n : Nat} (h : n < 256) : (UInt8.ofNat n).toNat = n := by
  rw [UInt8.toNat_ofNat']
  omega

/-- One continuation byte of a character. -/
theorem continued_cons {count low high bits n : Nat} (bytes : List UInt8)
    (h : low ≤ n ∧ n ≤ high) (hn : n < 256) :
    continued (count + 1) low high bits (UInt8.ofNat n :: bytes) =
      continued count 0x80 0xbf (64 * bits + n % 64) bytes := by
  rw [continued, toNat_ofNat_of_lt hn, if_pos h]

theorem lead_one {n : Nat} (h : 0xc2 ≤ n ∧ n < 0xe0) :
    lead n = some (1, 0x80, 0xbf, n - 0xc0) := by
  rw [lead, if_neg (by omega), if_neg (by omega), if_pos h.2]

/-- The range of the second byte leaves out overlong forms and surrogates. -/
theorem lead_two {n : Nat} (h : 0xe0 ≤ n ∧ n < 0xf0) :
    lead n = some (2, if n = 0xe0 then 0xa0 else 0x80, if n = 0xed then 0x9f else 0xbf,
      n - 0xe0) := by
  unfold lead
  split_ifs <;> first | omega | simp_all

/-- It leaves out overlong forms and what is no character any more. -/
theorem lead_three {n : Nat} (h : 0xf0 ≤ n ∧ n ≤ 0xf4) :
    lead n = some (3, if n = 0xf0 then 0x90 else 0x80, if n = 0xf4 then 0x8f else 0xbf,
      n - 0xf0) := by
  unfold lead
  split_ifs <;> first | omega | simp_all

/-- The bytes of a character are read back as that character.  The cases are the
lengths of the encoding. -/
theorem decode_encodeChar (c : Char) (bytes : List UInt8) :
    decode (String.utf8EncodeChar c ++ bytes) = c :: decode bytes := by
  have hvalid : c.val.toNat < 0xd800 ∨ 0xdfff < c.val.toNat ∧ c.val.toNat < 0x110000 := c.valid
  have hchar : Char.ofNat c.val.toNat = c := Char.ofNat_toNat c
  generalize hv : c.val.toNat = v at hvalid hchar
  unfold String.utf8EncodeChar
  simp only [hv]
  -- one to four bytes; the arithmetic puts the bits of the bytes together again
  by_cases h1 : v ≤ 0x7f
  · rw [if_pos h1, List.singleton_append, decode_cons, decodeChar, toNat_ofNat_of_lt (by omega),
      lead, if_pos (by omega)]
    simp only [continued, hchar]
  by_cases h2 : v ≤ 0x7ff
  · have hbits : 64 * (v / 64 % 0x20 + 0xc0 - 0xc0) + (v % 0x40 + 0x80) % 64 = v := by omega
    rw [if_neg h1, if_pos h2]
    simp only [List.cons_append, List.nil_append]
    rw [decode_cons, decodeChar, toNat_ofNat_of_lt (by omega), lead_one (by omega)]
    simp only
    rw [continued_cons _ (by omega) (by omega), hbits]
    simp only [continued, hchar]
  by_cases h3 : v ≤ 0xffff
  -- the range of the second byte leaves out overlong forms and the surrogates
  · have hsecond : (if v / 4096 % 0x10 + 0xe0 = 0xe0 then 0xa0 else 0x80) ≤
          v / 64 % 0x40 + 0x80 ∧ v / 64 % 0x40 + 0x80 ≤
        if v / 4096 % 0x10 + 0xe0 = 0xed then 0x9f else 0xbf := by
      split_ifs <;> omega
    have hbits : 64 * (64 * (v / 4096 % 0x10 + 0xe0 - 0xe0) + (v / 64 % 0x40 + 0x80) % 64) +
        (v % 0x40 + 0x80) % 64 = v := by
      omega
    rw [if_neg h1, if_neg h2, if_pos h3]
    simp only [List.cons_append, List.nil_append]
    rw [decode_cons, decodeChar, toNat_ofNat_of_lt (by omega), lead_two (by omega)]
    simp only
    rw [continued_cons _ hsecond (by omega), continued_cons _ (by omega) (by omega), hbits]
    simp only [continued, hchar]
  · have hsecond : (if v / 262144 % 0x08 + 0xf0 = 0xf0 then 0x90 else 0x80) ≤
          v / 4096 % 0x40 + 0x80 ∧ v / 4096 % 0x40 + 0x80 ≤
        if v / 262144 % 0x08 + 0xf0 = 0xf4 then 0x8f else 0xbf := by
      split_ifs <;> omega
    have hbits : 64 * (64 * (64 * (v / 262144 % 0x08 + 0xf0 - 0xf0) +
        (v / 4096 % 0x40 + 0x80) % 64) + (v / 64 % 0x40 + 0x80) % 64) + (v % 0x40 + 0x80) % 64 =
          v := by
      omega
    rw [if_neg h1, if_neg h2, if_neg h3]
    simp only [List.cons_append, List.nil_append]
    rw [decode_cons, decodeChar, toNat_ofNat_of_lt (by omega), lead_three (by omega)]
    simp only
    rw [continued_cons _ hsecond (by omega), continued_cons _ (by omega) (by omega),
      continued_cons _ (by omega) (by omega), hbits]
    simp only [continued, hchar]

/-- What is encoded is read back. -/
@[simp] theorem decode_encode (cs : List Char) : decode (encode cs) = cs := by
  induction cs with
  | nil => simp [encode]
  | cons c cs ih => rw [encode, List.flatMap_cons, decode_encodeChar, ← encode, ih]

/-- An ASCII byte is no byte of another character. -/
theorem toNat_of_mem_encodeChar {c : Char} {b : UInt8} (h : b ∈ String.utf8EncodeChar c)
    (hb : b.toNat < 0x80) : c.toNat = b.toNat := by
  have hvalid : c.val.toNat < 0xd800 ∨ 0xdfff < c.val.toNat ∧ c.val.toNat < 0x110000 := c.valid
  show c.val.toNat = b.toNat
  generalize hv : c.val.toNat = v at hvalid
  unfold String.utf8EncodeChar at h
  simp only [hv] at h
  split_ifs at h with h1 h2 h3
  · rw [List.mem_singleton] at h
    rw [h, toNat_ofNat_of_lt (by omega)]
  all_goals
    simp only [List.mem_cons, List.not_mem_nil, or_false] at h
    rcases h with rfl | h
    · rw [toNat_ofNat_of_lt (by omega)] at hb
      omega
  · rw [h, toNat_ofNat_of_lt (by omega)] at hb
    omega
  · rcases h with rfl | rfl <;> rw [toNat_ofNat_of_lt (by omega)] at hb <;> omega
  · rcases h with rfl | rfl | rfl <;> rw [toNat_ofNat_of_lt (by omega)] at hb <;> omega

/-- A lone continuation byte, and a character that is cut off by the next one. -/
example : decode [0x80, 0xe2, 0x82, 0x41] = [replacement, replacement, 'A'] := by
  simp [decode_cons, decodeChar, lead, continued]

end Utf8
end Python
