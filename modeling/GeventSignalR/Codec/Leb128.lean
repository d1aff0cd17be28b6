import Mathlib.Algebra.Ring.Nat
import Mathlib.Data.Nat.Log
import Mathlib.Data.List.Infix
import Mathlib.Tactic.SplitIfs

/-!
# LEB128

Natural numbers as groups of seven bits, the least significant one first.

* `value` is the number of some groups, and `Code` the byte strings whose last byte alone has its
  top bit clear.
* `decode_eq_some_iff`: the decoder reads a code from the front and leaves the rest.
* `Code.eq_of_begins`: no code is the beginning of another one.
* `Code.length_eq`, `Code.log_lt_length`: a code without an idle last group is a shortest one of
  its number.
-/

namespace Leb128

/-- The number of some groups; the top bits do not count. -/
def value : List UInt8 → Nat
  | [] => 0
  | b :: bytes => b.toNat % 128 + 128 * value bytes

/-- The number at the front of some bytes, and what stands behind it. -/
def decode : List UInt8 → Option (Nat × List UInt8)
  | [] => none
  | b :: bytes =>
      if b.toNat < 128 then
        some (b.toNat, bytes)
      else
        (decode bytes).map fun r => (b.toNat % 128 + 128 * r.1, r.2)

/-- Every byte but the last one has its top bit set. -/
inductive Code : List UInt8 → Prop where
  | last {b : UInt8} (h : b.toNat < 128) : Code [b]
  | more {b : UInt8} {bytes : List UInt8} (h : 128 ≤ b.toNat) (hbytes : Code bytes) :
      Code (b :: bytes)

/-- The last group is not zero, or there is no other one. -/
def IsTight (bytes : List UInt8) : Prop :=
  bytes.length = 1 ∨ ∃ b ∈ bytes.getLast?, b.toNat ≠ 0

theorem value_lt (bytes : List UInt8) : value bytes < 128 ^ bytes.length := by
  induction bytes with
  | nil => simp [value]
  | cons b bytes ih =>
      have hgroup : b.toNat % 128 < 128 := Nat.mod_lt _ (by decide)
      rw [value, List.length_cons, Nat.pow_succ]
      omega

namespace Code

variable {code code' : List UInt8}

theorem length_pos (h : Code code) : 0 < code.length := by
  cases h <;> simp

/-- Its bytes but the last have their top bit set. -/
theorem dropLast (h : Code code) : ∀ b ∈ code.dropLast, 128 ≤ b.toNat := by
  induction h with
  | last h => simp
  | @more b bytes h hbytes ih =>
      obtain ⟨c, rest, rfl⟩ := List.exists_cons_of_length_pos hbytes.length_pos
      intro b' hb'
      rw [List.dropLast_cons_cons] at hb'
      rcases List.mem_cons.mp hb' with rfl | hb'
      · exact h
      · exact ih b' hb'

/-- Its last byte has its top bit clear. -/
theorem getLast (h : Code code) : ∀ b ∈ code.getLast?, b.toNat < 128 := by
  induction h with
  | last h =>
      intro b' hb'
      cases hb'
      exact h
  | @more b bytes h hbytes ih =>
      obtain ⟨c, rest, rfl⟩ := List.exists_cons_of_length_pos hbytes.length_pos
      rw [List.getLast?_cons_cons]
      exact ih

/-- A code is read back, whatever stands behind it. -/
theorem decode_append (h : Code code) (rest : List UInt8) :
    decode (code ++ rest) = some (value code, rest) := by
  induction h with
  | @last b h =>
      have hgroup : b.toNat % 128 = b.toNat := Nat.mod_eq_of_lt h
      simp [decode, value, h, hgroup]
  | @more b bytes h hbytes ih =>
      have hmore : ¬b.toNat < 128 := by omega
      rw [List.cons_append, decode, if_neg hmore, ih]
      rfl

/-- No code is the beginning of another one. -/
theorem eq_of_begins (h : Code code) (h' : Code code') (hbegins : code <+: code') :
    code = code' := by
  obtain ⟨rest, rfl⟩ := hbegins
  have hread := h.decode_append rest
  have hwhole := h'.decode_append []
  rw [List.append_nil, hread, Option.some.injEq, Prod.mk.injEq] at hwhole
  rw [hwhole.2, List.append_nil]

/-- A code with a last group that is not zero is not the code of zero. -/
theorem value_ne_zero (h : Code code) (hlast : ∃ b ∈ code.getLast?, b.toNat ≠ 0) :
    value code ≠ 0 := by
  induction h with
  | @last b h =>
      obtain ⟨b', hb', hne⟩ := hlast
      have hsame : b = b' := by simpa using hb'
      subst hsame
      have hgroup : b.toNat % 128 = b.toNat := Nat.mod_eq_of_lt h
      rw [value, value, hgroup]
      omega
  | @more b bytes h hbytes ih =>
      obtain ⟨c, rest, rfl⟩ := List.exists_cons_of_length_pos hbytes.length_pos
      rw [List.getLast?_cons_cons] at hlast
      have hrest := ih hlast
      rw [value]
      omega

/-- Such a code takes a place of the number for each group. -/
theorem pow_le (h : Code code) (hlast : ∃ b ∈ code.getLast?, b.toNat ≠ 0) :
    128 ^ (code.length - 1) ≤ value code := by
  induction h with
  | @last b h =>
      have hne := (Code.last h).value_ne_zero hlast
      rw [List.length_singleton, Nat.sub_self, Nat.pow_zero]
      exact Nat.one_le_iff_ne_zero.mpr hne
  | @more b bytes h hbytes ih =>
      obtain ⟨c, rest, rfl⟩ := List.exists_cons_of_length_pos hbytes.length_pos
      rw [List.getLast?_cons_cons] at hlast
      have hpow := ih hlast
      have hlength : (b :: c :: rest).length - 1 = (c :: rest).length - 1 + 1 := by simp
      rw [hlength, Nat.pow_succ, value]
      omega

/-- A tight code has a group for each place of the number. -/
theorem length_eq (h : Code code) (htight : IsTight code) :
    code.length = Nat.log 128 (value code) + 1 := by
  have hpos := h.length_pos
  rcases htight with hone | hlast
  · have hlt := value_lt code
    rw [hone, Nat.pow_one] at hlt
    rw [hone, Nat.log_of_lt hlt]
  · have hlength : code.length - 1 + 1 = code.length := by omega
    have hlog : Nat.log 128 (value code) = code.length - 1 := by
      apply Nat.log_eq_of_pow_le_of_lt_pow (h.pow_le hlast)
      rw [hlength]
      exact value_lt code
    omega

/-- Every number needs a group for each place. -/
theorem log_lt_length (h : Code code) : Nat.log 128 (value code) < code.length := by
  apply Nat.log_lt_of_lt_pow'
  · exact h.length_pos.ne'
  · exact value_lt code

end Code

/-- The decoder reads a code from the front and leaves the rest. -/
theorem decode_eq_some_iff {bytes rest : List UInt8} {n : Nat} :
    decode bytes = some (n, rest) ↔
      ∃ code, Code code ∧ value code = n ∧ bytes = code ++ rest := by
  constructor
  · intro h
    induction bytes generalizing n with
    | nil => cases h
    | cons b bytes ih =>
        rw [decode] at h
        split_ifs at h with hlast
        · have hgroup : b.toNat % 128 = b.toNat := Nat.mod_eq_of_lt hlast
          cases h
          exact ⟨[b], .last hlast, by simp [value, hgroup], rfl⟩
        · obtain ⟨⟨m, tail⟩, hread, hpair⟩ := Option.map_eq_some_iff.mp h
          cases hpair
          obtain ⟨code, hcode, hvalue, happend⟩ := ih hread
          refine ⟨b :: code, .more (by omega) hcode, ?_, ?_⟩
          · rw [value, hvalue]
          · rw [happend, List.cons_append]
  · rintro ⟨code, hcode, rfl, rfl⟩
    exact hcode.decode_append rest

end Leb128
