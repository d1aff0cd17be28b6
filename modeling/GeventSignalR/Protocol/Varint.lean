import GeventSignalR.Codec.Leb128
import GeventSignalR.Protocol.Framing

/-!
# The length prefix

`_to_varint` writes LEB128: the code of a number (`value_toVarint`), and the shortest one
(`isTight_toVarint`).
-/

namespace GeventSignalR
namespace MessagePackHubProtocol

open Leb128

/-- One round of the loop on the number that is left. -/
theorem toVarint_eq (n : Nat) :
    toVarint n =
      if n < 128 then [UInt8.ofNat n] else UInt8.ofNat (n % 128 + 128) :: toVarint (n / 128) := by
  split_ifs with hlt
  · exact toVarint_of_lt hlt
  · have hshift : n >>> 7 = n / 128 := Nat.shiftRight_eq_div_pow n 7
    have hmore : n / 128 ≠ 0 := by omega
    have hmask : n &&& 0x7F = n % 128 := Nat.and_two_pow_sub_one_eq_mod n 7
    have hgroup : n % 128 < 2 ^ 7 := Nat.mod_lt n (by decide)
    have hbit : n % 128 ||| 0x80 = n % 128 + 128 := by
      have hor : 0x80 ||| n % 128 = 2 ^ 7 * 1 + n % 128 :=
        (Nat.two_pow_add_eq_or_of_lt hgroup 1).symm
      rw [Nat.or_comm, hor]
      omega
    rw [toVarint, toVarintLoop]
    simp only [hshift, hmore, ne_eq, not_false_iff, if_true, hmask, hbit, List.nil_append]
    rw [toVarintLoop_append]
    rfl

/-- A number as the byte of its last group. -/
theorem toNat_ofNat_of_lt {n : Nat} (h : n < 256) : (UInt8.ofNat n).toNat = n := by
  rw [UInt8.toNat_ofNat']
  exact Nat.mod_eq_of_lt h

theorem code_toVarint (n : Nat) : Code (toVarint n) := by
  induction n using Nat.strongRecOn with
  | ind n ih =>
      rw [toVarint_eq]
      split_ifs with hlt
      · apply Code.last
        rwa [toNat_ofNat_of_lt (by omega)]
      · apply Code.more
        · rw [toNat_ofNat_of_lt (by omega)]
          omega
        · exact ih (n / 128) (by omega)

/-- The groups are those of the number. -/
theorem value_toVarint (n : Nat) : value (toVarint n) = n := by
  induction n using Nat.strongRecOn with
  | ind n ih =>
      rw [toVarint_eq]
      split_ifs with hlt
      · rw [value, value, toNat_ofNat_of_lt (by omega)]
        omega
      · rw [value, ih (n / 128) (by omega), toNat_ofNat_of_lt (by omega)]
        omega

/-- The loop ends with the last group that is not zero. -/
theorem getLast_toVarint {n : Nat} (h : n ≠ 0) : ∃ b ∈ (toVarint n).getLast?, b.toNat ≠ 0 := by
  induction n using Nat.strongRecOn with
  | ind n ih =>
      rw [toVarint_eq]
      split_ifs with hlt
      · refine ⟨UInt8.ofNat n, rfl, ?_⟩
        rwa [toNat_ofNat_of_lt (by omega)]
      · obtain ⟨c, rest, hrest⟩ :=
          List.exists_cons_of_length_pos (code_toVarint (n / 128)).length_pos
        have hlast := ih (n / 128) (by omega) (by omega)
        rw [hrest] at hlast ⊢
        rwa [List.getLast?_cons_cons]

theorem isTight_toVarint (n : Nat) : IsTight (toVarint n) := by
  by_cases hzero : n = 0
  · subst hzero
    left
    rw [toVarint_of_lt (by decide)]
    rfl
  · exact .inr (getLast_toVarint hzero)

/-- The loop makes one round for each place of the number, and appends one byte in each. -/
theorem length_toVarint (n : Nat) : (toVarint n).length = Nat.log 128 n + 1 := by
  have hlength := (code_toVarint n).length_eq (isTight_toVarint n)
  rwa [value_toVarint] at hlength

/-- What `_to_varint` returns is read back in front of anything, is told apart from the prefix of
any other number, and is the shortest string that is read as the number. -/
theorem toVarint_leb128 (n : Nat) :
    (∀ rest, decode (toVarint n ++ rest) = some (n, rest)) ∧
      (∀ b ∈ (toVarint n).dropLast, 0x80 ≤ b) ∧ (∀ b ∈ (toVarint n).getLast?, b < 0x80) ∧
      (∀ m, toVarint m <+: toVarint n → m = n) ∧
      ∀ bytes rest, decode bytes = some (n, rest) →
        (toVarint n).length + rest.length ≤ bytes.length := by
  have hcode := code_toVarint n
  refine ⟨?_, ?_, ?_, ?_, ?_⟩
  · intro rest
    have hread := hcode.decode_append rest
    rwa [value_toVarint] at hread
  · intro b hb
    exact UInt8.le_iff_toNat_le.mpr (hcode.dropLast b hb)
  · intro b hb
    exact UInt8.lt_iff_toNat_lt.mpr (hcode.getLast b hb)
  · intro m hbegins
    have hsame := (code_toVarint m).eq_of_begins hcode hbegins
    rw [← value_toVarint m, hsame, value_toVarint]
  · intro bytes rest hread
    obtain ⟨code, hother, hvalue, rfl⟩ := decode_eq_some_iff.mp hread
    have hlong := hother.log_lt_length
    rw [hvalue] at hlong
    rw [length_toVarint, List.length_append]
    omega

end MessagePackHubProtocol
end GeventSignalR
