import Mathlib.Tactic
import GeventSignalR.Protocol.Framing

/-!
# What the reader of MessagePack frames makes of arbitrary bytes

The prefix byte is read as a MessagePack value, so the length can be negative,
and Python's slices are clipped instead of failing.

* The offset is not monotone, but the position it denotes is: an iteration that
  does not raise moves it by at least two bytes (`bound_add_two_le`), so the loop
  is entered at most once a byte (`parseMessages_ends`).
* Input that is read without an exception consists of frames exactly when each
  prefix is a length that fits into the rest of the input (`accepted_framed_iff`).
-/

namespace GeventSignalR
namespace MessagePackHubProtocol

open Python

variable {mp : Msgpack}

/-! ## The number of iterations -/

/-- How often the body of the loop of `parse_messages` is entered. -/
def parseIterations (mp : Msgpack) (raw : List UInt8) : Nat → Int → Nat
  | 0, _ => 0
  | fuel + 1, offset =>
      if offset < raw.length then
        match parseStep mp raw offset with
        | .error _ => 1
        | .ok (length, _) => 1 + parseIterations mp raw fuel (offset + length + 1)
      else
        0

/-- The position of the offset grows by the prefix byte and the payload, whatever
the signs of the two offsets are. -/
theorem bound_add_two_le (hmp : Documented mp) {raw : List UInt8} {offset n : Int}
    {message : Message} (h : parseStep mp raw offset = .ok (n, message)) :
    bound raw.length offset + 2 ≤ bound raw.length (offset + n + 1) := by
  obtain ⟨b, v, hslice, -, -, hpayload, -⟩ := parseStep_ok hmp h
  have hfirst : (slice raw offset (offset + 1)).length = 1 := by
    rw [hslice]
    rfl
  have hrest : (slice raw (offset + 1) (offset + n + 1)).length ≠ 0 := by
    intro hempty
    exact hpayload (List.eq_nil_of_length_eq_zero hempty)
  rw [length_slice] at hfirst hrest
  omega

theorem bound_le {length : Nat} (i : Int) : bound length i ≤ length := by
  rw [bound]
  split_ifs <;> omega

/-- From any offset the loop is entered at most once for two bytes behind its
position, and once more if it raises.  The induction is on the fuel. -/
theorem parseIterations_le (hmp : Documented mp) (raw : List UInt8) (fuel : Nat) :
    ∀ offset : Int, 2 * parseIterations mp raw fuel offset + bound raw.length offset ≤
      raw.length + 2 := by
  induction fuel with
  | zero =>
      intro offset
      have : bound raw.length offset ≤ raw.length := bound_le offset
      simp only [parseIterations]
      omega
  | succ fuel ih =>
      intro offset
      have hbound : bound raw.length offset ≤ raw.length := bound_le offset
      rw [parseIterations]
      by_cases hlt : offset < raw.length
      · rw [if_pos hlt]
        cases hstep : parseStep mp raw offset with
        | error e =>
            show 2 * 1 + bound raw.length offset ≤ raw.length + 2
            omega
        | ok read =>
            obtain ⟨n, message⟩ := read
            have hgrows := bound_add_two_le hmp hstep
            have hrest := ih (offset + n + 1)
            show 2 * (1 + parseIterations mp raw fuel (offset + n + 1)) + _ ≤ _
            omega
      · rw [if_neg hlt]
        omega

/-- With more fuel than bytes behind its position the loop ends. -/
theorem parseLoop_ends (hmp : Documented mp) (raw : List UInt8) (fuel : Nat) :
    ∀ (offset : Int) (messages : List Message), raw.length < bound raw.length offset + fuel →
      ∃ r, parseLoop mp raw fuel offset messages = some r := by
  induction fuel with
  | zero =>
      intro offset messages h
      have : bound raw.length offset ≤ raw.length := bound_le offset
      omega
  | succ fuel ih =>
      intro offset messages h
      rw [parseLoop]
      by_cases hlt : offset < raw.length
      · rw [if_pos hlt]
        cases hstep : parseStep mp raw offset with
        | error e => exact ⟨.error e, rfl⟩
        | ok read =>
            obtain ⟨n, message⟩ := read
            have hgrows := bound_add_two_le hmp hstep
            exact ih (offset + n + 1) (messages ++ [message]) (by omega)
      · rw [if_neg hlt]
        exact ⟨.ok messages, rfl⟩

/-- On every input the loop ends, and its body is entered at most once a byte. -/
theorem parseMessages_ends (hmp : Documented mp) (raw : List UInt8) :
    (∃ r, parseMessages mp raw = some r) ∧
      ∀ fuel, parseIterations mp raw fuel 0 ≤ raw.length := by
  constructor
  · apply parseLoop_ends hmp
    omega
  · intro fuel
    have hle := parseIterations_le hmp raw fuel 0
    have hzero : bound raw.length 0 = 0 := by simp [bound]
    rw [hzero] at hle
    cases raw with
    | nil => cases fuel <;> simp [parseIterations]
    | cons b rest =>
        rw [List.length_cons] at hle ⊢
        omega

/-- The offset of the second iteration is -1, which denotes the last byte. -/
theorem parseMessages_ends_backwards :
    Documented fragment ∧
      (∃ r, parseMessages fragment [0xfc, 0x91, 0x06, 0x00, 0x00] = some r) ∧
      ∀ fuel, parseIterations fragment [0xfc, 0x91, 0x06, 0x00, 0x00] fuel 0 ≤ 5 :=
  ⟨fragment_documented, parseMessages_ends fragment_documented _⟩

/-! ## Input that is read without an exception -/

/-- The input is a batch of frames, and the messages are those of its payloads. -/
def WellFramed (mp : Msgpack) (raw : List UInt8) (messages : List Message) : Prop :=
  ∃ batch : List (Payload mp),
    raw = (batch.flatMap fun p => frame p.bytes) ∧ messages = batch.map (·.message)

/-- Whether the bytes, walked from length to length, are lengths below 128 that
fit into the rest of the input. -/
def lengthsFit : List UInt8 → Bool
  | [] => true
  | b :: rest => b < 0x80 && b.toNat ≤ rest.length && lengthsFit (rest.drop b.toNat)
termination_by raw => raw.length

theorem lengthsFit_cons {b : UInt8} {rest : List UInt8} :
    lengthsFit (b :: rest) = true ↔
      b < 0x80 ∧ b.toNat ≤ rest.length ∧ lengthsFit (rest.drop b.toNat) = true := by
  rw [lengthsFit]
  simp [and_assoc]

/-- What the loop reads at a length that fits is the payload behind it. -/
theorem parseStep_lengthsFit (hmp : Documented mp) (before : List UInt8) {b : UInt8}
    {rest : List UInt8} {n : Int} {message : Message} (hb : b < 0x80) (hfit : b.toNat ≤ rest.length)
    (h : parseStep mp (before ++ b :: rest) before.length = .ok (n, message)) :
    n = b.toNat ∧ ∃ p : Payload mp, p.bytes = rest.take b.toNat ∧ p.message = message := by
  obtain ⟨b', v, hslice, hv, hn, -, values, hvalues, hmessage⟩ := parseStep_ok hmp h
  have hfirst := slice_append_append before [b] rest
  obtain rfl : b' = b := by
    have hfirst' : slice (before ++ b :: rest) before.length (before.length + 1) = [b] := by
      simpa using hfirst
    rw [hslice] at hfirst'
    exact List.head_eq_of_cons_eq hfirst'
  have hlength : n = b'.toNat := by
    simp only [headByte, hb, if_true, Option.some.injEq] at hv
    subst hv
    simpa [Value.asInt] using hn.symm
  subst hlength
  have hpayload : slice (before ++ b' :: rest) (before.length + 1)
      (before.length + b'.toNat + 1) = rest.take b'.toNat := by
    have hpiece := slice_append_append (before ++ [b']) (rest.take b'.toNat) (rest.drop b'.toNat)
    have hraw : before ++ [b'] ++ rest.take b'.toNat ++ rest.drop b'.toNat =
        before ++ b' :: rest := by
      simp
    have hstop : (((before ++ [b']).length + (rest.take b'.toNat).length : Nat) : Int) =
        before.length + b'.toNat + 1 := by
      simp only [List.length_append, List.length_singleton, List.length_take, min_eq_left hfit]
      push_cast
      ring
    rw [hraw, hstop] at hpiece
    simpa using hpiece
  rw [hpayload] at hvalues
  exact ⟨rfl, ⟨_, _, _, hvalues, hmessage⟩, rfl, rfl⟩

/-- Where the lengths fit, the loop cuts what is left into frames.  The induction
is on the fuel; `before` is what has been read. -/
theorem parseLoop_lengthsFit (hmp : Documented mp) (fuel : Nat) :
    ∀ (before rest : List UInt8) (messages result : List Message), lengthsFit rest = true →
      parseLoop mp (before ++ rest) fuel before.length messages = some (.ok result) →
      ∃ batch : List (Payload mp), rest = (batch.flatMap fun p => frame p.bytes) ∧
        result = messages ++ batch.map (·.message) := by
  induction fuel with
  | zero =>
      intro before rest messages result _ h
      cases h
  | succ fuel ih =>
      intro before rest messages result hfit h
      rw [parseLoop] at h
      cases rest with
      | nil =>
          rw [if_neg (by simp)] at h
          cases h
          exact ⟨[], rfl, by simp⟩
      | cons b rest =>
          obtain ⟨hb, hlength, hrest⟩ := lengthsFit_cons.mp hfit
          rw [if_pos (by simp)] at h
          split at h
          · cases h
          rename_i n message hstep
          obtain ⟨rfl, p, hp, rfl⟩ := parseStep_lengthsFit hmp before hb hlength hstep
          -- the payload has the length that its first byte names
          have hshort : p.bytes.length = b.toNat := by
            rw [hp, List.length_take, min_eq_left hlength]
          have hframe : frame p.bytes = b :: rest.take b.toNat := by
            have hlt : b.toNat < 128 := UInt8.lt_iff_toNat_lt.mp hb
            rw [frame, hshort, toVarint_of_lt hlt, hp]
            simp
          have hraw : before ++ b :: rest = before ++ frame p.bytes ++ rest.drop b.toNat := by
            simp [hframe]
          have hoffset : ((before.length : Int) + b.toNat + 1) =
              ((before ++ frame p.bytes).length : Nat) := by
            rw [hframe, List.length_append, List.length_cons, List.length_take, min_eq_left hlength]
            push_cast
            ring
          rw [hraw, hoffset] at h
          obtain ⟨batch, hbatch, hresult⟩ := ih _ _ _ _ hrest h
          refine ⟨p :: batch, ?_, ?_⟩
          · rw [List.flatMap_cons, ← hbatch, hframe, List.cons_append, List.take_append_drop]
          · rw [hresult]
            simp

/-- In a batch of short frames every length fits. -/
theorem lengthsFit_frames (batch : List (Payload mp)) (hshort : ∀ p ∈ batch, p.bytes.length < 128) :
    lengthsFit (batch.flatMap fun p => frame p.bytes) = true := by
  induction batch with
  | nil => simp [lengthsFit]
  | cons p batch ih =>
      have hp : p.bytes.length < 128 := hshort p (by simp)
      have hnat : (UInt8.ofNat p.bytes.length).toNat = p.bytes.length := by
        rw [UInt8.toNat_ofNat']
        omega
      rw [List.flatMap_cons, frame, toVarint_of_lt hp, List.singleton_append, List.cons_append,
        lengthsFit_cons, hnat]
      refine ⟨?_, by simp, ?_⟩
      · rw [UInt8.lt_iff_toNat_lt, hnat]
        exact hp
      · rw [List.drop_left]
        exact ih fun q hq => hshort q (by simp [hq])

/-- Input that is read without an exception consists of the frames of the messages
exactly when the lengths fit. -/
theorem accepted_framed_iff (hmp : Documented mp) {raw : List UInt8} {messages : List Message}
    (h : parseMessages mp raw = some (.ok messages)) :
    WellFramed mp raw messages ↔ lengthsFit raw = true := by
  constructor
  · rintro ⟨batch, rfl, rfl⟩
    exact lengthsFit_frames batch ((parseMessages_frames_iff hmp batch).mp h)
  · intro hfit
    obtain ⟨batch, hbatch, hmessages⟩ := parseLoop_lengthsFit hmp _ [] raw [] messages hfit h
    exact ⟨batch, hbatch, hmessages⟩

/-- Two pings. -/
theorem accepted_framed_two_pings :
    WellFramed fragment [0x02, 0x91, 0x06, 0x02, 0x91, 0x06] [.ping, .ping] ↔
      lengthsFit [0x02, 0x91, 0x06, 0x02, 0x91, 0x06] = true :=
  accepted_framed_iff fragment_documented rfl

/-- A frame that is cut off: the prefix promises five bytes, two are left, and they
are a complete array.  The slice is clipped, and the message is returned. -/
theorem accepted_truncated :
    Documented fragment ∧
      parseMessages fragment [0x05, 0x91, 0x06] = some (.ok [.ping]) ∧
      ¬ WellFramed fragment [0x05, 0x91, 0x06] [.ping] := by
  have hread : parseMessages fragment [0x05, 0x91, 0x06] = some (.ok [.ping]) := rfl
  refine ⟨fragment_documented, hread, ?_⟩
  rintro ⟨batch, hraw, hmessages⟩
  have hshort : ∀ p ∈ batch, p.bytes.length < 128 := by
    rw [hraw, hmessages] at hread
    exact (parseMessages_frames_iff fragment_documented batch).mp hread
  have hfit := lengthsFit_frames batch hshort
  rw [← hraw] at hfit
  simp [lengthsFit] at hfit

end MessagePackHubProtocol
end GeventSignalR
