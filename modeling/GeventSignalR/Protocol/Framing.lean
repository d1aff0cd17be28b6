import Mathlib.Tactic
import GeventSignalR.Protocol.MessagePack

/-!
# Batches of MessagePack frames

What `parse_messages` makes of the frames that `encode` writes.

* A frame whose payload is shorter than 128 bytes is read back, and so is a batch
  of such frames (`parseMessages_frames`).
* A longer payload has a prefix of several bytes.  The reader takes the first of
  them for the length, and the loop never ends with a result
  (`parseMessages_frames_ne_ok`).  It raises at once, or the offset becomes
  negative; from a negative offset every slice that reaches the end of the input
  is empty, and `unpackb` raises on it.
-/

namespace GeventSignalR
namespace MessagePackHubProtocol

open Python

/-- The value of a single byte that is a complete MessagePack object. -/
def headByte (b : UInt8) : Option Value :=
  if b < 0x80 then some (.int b.toNat)
  else if b = 0x80 then some (.dict [])
  else if b = 0x90 then some (.list [])
  else if b = 0xa0 then some (.str "")
  else if b = 0xc0 then some .none
  else if b = 0xc2 then some (.bool false)
  else if b = 0xc3 then some (.bool true)
  else if 0xe0 ≤ b then some (.int (b.toNat - 256))
  else none

/-- What the MessagePack specification says about inputs of at most one byte:
`unpackb` raises on incomplete input. -/
structure Documented (mp : Msgpack) : Prop where
  unpackb_nil : ∃ e, mp.unpackb [] = .error e
  unpackb_value : ∀ b v, headByte b = some v → mp.unpackb [b] = .ok v
  unpackb_incomplete : ∀ b, headByte b = none → ∃ e, mp.unpackb [b] = .error e

/-- A packed array that `_decode_message` accepts. -/
structure Payload (mp : Msgpack) where
  bytes : List UInt8
  values : Value
  message : Message
  unpacked : mp.unpackb bytes = .ok values
  accepted : decodeMessage values = .ok message

variable {mp : Msgpack}

/-! ## The length prefix -/

theorem toVarintLoop_append (value : Nat) (buffer : List UInt8) :
    toVarintLoop value buffer = buffer ++ toVarintLoop value [] := by
  induction value using Nat.strongRecOn generalizing buffer with
  | ind value ih =>
      rw [toVarintLoop]
      conv_rhs => rw [toVarintLoop]
      by_cases h : value >>> 7 ≠ 0
      · have hlt : value >>> 7 < value := by
          rw [Nat.shiftRight_eq_div_pow] at h ⊢
          omega
        simp only [h, ne_eq, not_false_iff, if_true]
        rw [ih _ hlt, ih _ hlt ([] ++ _)]
        simp
      · simp [h]

/-- The prefix of a payload shorter than 128 bytes is its length. -/
theorem toVarint_of_lt {n : Nat} (h : n < 128) : toVarint n = [UInt8.ofNat n] := by
  have hshift : n >>> 7 = 0 := by
    simp only [Nat.shiftRight_eq_div_pow]
    omega
  have hmask : n &&& 0x7F = n := by
    rw [show (0x7F : Nat) = 2 ^ 7 - 1 from rfl, Nat.and_two_pow_sub_one_eq_mod]
    omega
  rw [toVarint, toVarintLoop]
  simp [hshift, hmask]

/-- A longer payload has a prefix of at least two bytes that starts with the
continuation bit. -/
theorem toVarint_of_le {n : Nat} (h : 128 ≤ n) :
    ∃ b c rest, toVarint n = b :: c :: rest ∧ 0x80 ≤ b := by
  have hshift : n >>> 7 ≠ 0 := by
    simp only [Nat.shiftRight_eq_div_pow]
    omega
  have hne : toVarintLoop (n >>> 7) [] ≠ [] := by
    rw [toVarintLoop]
    split
    · rw [toVarintLoop_append]
      simp
    · simp
  obtain ⟨c, rest, hrest⟩ := List.exists_cons_of_ne_nil hne
  refine ⟨UInt8.ofNat (n &&& 0x7F ||| 0x80), c, rest, ?_, ?_⟩
  · rw [toVarint, toVarintLoop]
    simp only [hshift, ne_eq, not_false_iff, if_true]
    rw [toVarintLoop_append, hrest]
    simp
  · have hlt : n &&& 0x7F < 2 ^ 7 := Nat.and_lt_two_pow n (by decide)
    have hor : n &&& 0x7F ||| 0x80 = 2 ^ 7 * 1 + (n &&& 0x7F) := by
      rw [Nat.two_pow_add_eq_or_of_lt hlt, Nat.or_comm]
    rw [UInt8.le_iff_toNat_le, hor, UInt8.toNat_ofNat']
    have : (0x80 : UInt8).toNat = 128 := rfl
    omega

/-! ## Frames with a one-byte prefix -/

/-- A packed array is not empty, because `unpackb` raises on empty input. -/
theorem Payload.bytes_ne_nil (hmp : Documented mp) (p : Payload mp) : p.bytes ≠ [] := by
  intro h
  obtain ⟨e, he⟩ := hmp.unpackb_nil
  have hok := p.unpacked
  rw [h, he] at hok
  cases hok

theorem headByte_of_lt {n : Nat} (h : n < 128) : headByte (UInt8.ofNat n) = some (.int n) := by
  have hnat : (UInt8.ofNat n).toNat = n := by
    rw [UInt8.toNat_ofNat']
    omega
  have hlt : UInt8.ofNat n < 0x80 := by
    rw [UInt8.lt_iff_toNat_lt, hnat]
    exact h
  simp [headByte, hlt, hnat]

/-- The loop reads a short frame at its offset completely. -/
theorem parseStep_frame (hmp : Documented mp) (before after : List UInt8) (p : Payload mp)
    (h : p.bytes.length < 128) :
    parseStep mp (before ++ frame p.bytes ++ after) before.length =
      .ok (p.bytes.length, p.message) := by
  let n := p.bytes.length
  have hraw : before ++ frame p.bytes ++ after =
      before ++ [UInt8.ofNat n] ++ (p.bytes ++ after) := by
    simp [frame, toVarint_of_lt h, n]
  have hprefix : slice (before ++ frame p.bytes ++ after) before.length (before.length + 1) =
      [UInt8.ofNat n] := by
    rw [hraw]
    exact_mod_cast slice_append_append before [UInt8.ofNat n] (p.bytes ++ after)
  have hpayload : slice (before ++ frame p.bytes ++ after) (before.length + 1)
      (before.length + n + 1) = p.bytes := by
    have hslice := slice_append_append (before ++ [UInt8.ofNat n]) p.bytes after
    rw [hraw, ← List.append_assoc]
    convert hslice using 2
    · simp
    · simp [n]
      ring
  have hbyte : mp.unpackb [UInt8.ofNat n] = .ok (.int n) :=
    hmp.unpackb_value _ _ (headByte_of_lt h)
  simp only [parseStep, hprefix, hbyte, Value.asInt, bind, Except.bind, hpayload, p.unpacked,
    p.accepted]
  rfl

/-- From the start of a batch of short frames the loop decodes one message a
frame.  The induction is on the batch; `before` is what has been read. -/
theorem parseLoop_frames (hmp : Documented mp) (batch : List (Payload mp)) :
    ∀ (before after : List UInt8) (fuel : Nat) (messages : List Message),
      (∀ p ∈ batch, p.bytes.length < 128) →
      parseLoop mp (before ++ batch.flatMap (fun p => frame p.bytes) ++ after)
          (fuel + batch.length) before.length messages =
        parseLoop mp (before ++ batch.flatMap (fun p => frame p.bytes) ++ after) fuel
          (before ++ batch.flatMap (fun p => frame p.bytes)).length
          (messages ++ batch.map (·.message)) := by
  induction batch with
  | nil =>
      intro before after fuel messages _
      simp
  | cons p batch ih =>
      intro before after fuel messages hshort
      have hp : p.bytes.length < 128 := hshort p (by simp)
      have hraw : before ++ (p :: batch).flatMap (fun p => frame p.bytes) ++ after =
          before ++ frame p.bytes ++ (batch.flatMap (fun p => frame p.bytes) ++ after) := by
        simp
      have hlen : (frame p.bytes).length = p.bytes.length + 1 := by
        simp [frame, toVarint_of_lt hp]
      have hlt : (before.length : Int) <
          (before ++ frame p.bytes ++ (batch.flatMap (fun p => frame p.bytes) ++ after)).length := by
        simp only [List.length_append, hlen]
        omega
      have hrec := ih (before ++ frame p.bytes) after fuel (messages ++ [p.message])
        (fun q hq => hshort q (by simp [hq]))
      have hoffset : ((before.length : Int) + p.bytes.length + 1) =
          ((before ++ frame p.bytes).length : Nat) := by
        simp [hlen]
        ring
      rw [hraw, List.length_cons, ← Nat.add_assoc, parseLoop, if_pos hlt,
        parseStep_frame hmp before _ p hp]
      simp only [hoffset]
      rw [List.append_assoc] at hrec ⊢
      simpa using hrec

/-- A batch of short frames is read back message by message. -/
theorem parseMessages_frames (hmp : Documented mp) (batch : List (Payload mp))
    (hshort : ∀ p ∈ batch, p.bytes.length < 128) :
    parseMessages mp (batch.flatMap fun p => frame p.bytes) =
      some (.ok (batch.map (·.message))) := by
  have hfuel : ∀ batch : List (Payload mp),
      batch.length ≤ (batch.flatMap fun p => frame p.bytes).length := by
    intro batch
    induction batch with
    | nil => simp
    | cons p batch ih =>
        have : p.bytes.length ≠ 0 := by simpa using p.bytes_ne_nil hmp
        have hframe : p.bytes.length ≤ (frame p.bytes).length := by simp [frame]
        rw [List.flatMap_cons, List.length_append, List.length_cons]
        omega
  obtain ⟨fuel, hf⟩ := Nat.exists_eq_add_of_le (hfuel batch)
  have hloop := parseLoop_frames hmp batch [] [] (fuel + 1) [] hshort
  simp only [List.nil_append, List.append_nil, List.length_nil, Nat.cast_zero] at hloop
  rw [parseMessages, hf, show batch.length + fuel + 1 = fuel + 1 + batch.length by omega, hloop,
    parseLoop, if_neg (by omega)]

/-! ## Frames with a longer prefix -/

/-- The lengths a single byte can stand for. -/
theorem headByte_asInt {b : UInt8} {v : Value} {n : Int} (hv : headByte b = some v)
    (hn : v.asInt = .ok n) : -32 ≤ n ∧ n ≤ 127 := by
  have hb : b.toNat < 256 := b.toNat_lt
  simp only [headByte, UInt8.lt_iff_toNat_lt, UInt8.le_iff_toNat_le] at hv
  split_ifs at hv <;> cases hv <;> simp only [Value.asInt, Except.ok.injEq, reduceCtorEq] at hn
  all_goals
    subst hn
    simp_all
    try omega

/-- A prefix byte with the continuation bit is no length, or 0, 1 or negative. -/
theorem headByte_asInt_of_le {b : UInt8} {v : Value} {n : Int} (hb : 0x80 ≤ b)
    (hv : headByte b = some v) (hn : v.asInt = .ok n) : n = 0 ∨ n = 1 ∨ n < 0 := by
  have hlt : b.toNat < 256 := b.toNat_lt
  simp only [headByte, UInt8.lt_iff_toNat_lt, UInt8.le_iff_toNat_le] at hv hb
  split_ifs at hv <;> cases hv <;> simp only [Value.asInt, Except.ok.injEq, reduceCtorEq] at hn
  all_goals
    subst hn
    simp_all
    try omega

/-- No value of a single byte is an array that `_decode_message` accepts. -/
theorem decodeMessage_headByte {b : UInt8} {v : Value} (hv : headByte b = some v)
    (message : Message) : decodeMessage v ≠ .ok message := by
  simp only [headByte] at hv
  split_ifs at hv <;> cases hv <;> intro h <;> cases h

/-- What an iteration that does not raise has read: one byte that stands for a
length, and a payload that is not empty. -/
theorem parseStep_ok (hmp : Documented mp) {raw : List UInt8} {offset n : Int} {message : Message}
    (h : parseStep mp raw offset = .ok (n, message)) :
    ∃ b v, slice raw offset (offset + 1) = [b] ∧ headByte b = some v ∧ v.asInt = .ok n ∧
      slice raw (offset + 1) (offset + n + 1) ≠ [] ∧
      ∃ values, mp.unpackb (slice raw (offset + 1) (offset + n + 1)) = .ok values ∧
        decodeMessage values = .ok message := by
  obtain ⟨e, hnil⟩ := hmp.unpackb_nil
  simp only [parseStep, bind, Except.bind] at h
  split at h
  · cases h
  rename_i v hv
  split at h
  · cases h
  rename_i length hlength
  split at h
  · cases h
  rename_i values hvalues
  split at h
  · cases h
  rename_i decoded hdecoded
  cases h
  have hpayload : slice raw (offset + 1) (offset + n + 1) ≠ [] := by
    intro hempty
    rw [hempty, hnil] at hvalues
    cases hvalues
  -- the slice of one byte is empty past the end, and `unpackb` refuses that too
  have hone := length_slice_succ_le raw offset
  cases hslice : slice raw offset (offset + 1) with
  | nil =>
      rw [hslice, hnil] at hv
      cases hv
  | cons b rest =>
      rw [hslice] at hone hv
      obtain rfl : rest = [] := by
        apply List.eq_nil_of_length_eq_zero
        simpa using hone
      cases hb : headByte b with
      | none =>
          obtain ⟨e', he'⟩ := hmp.unpackb_incomplete b hb
          rw [he'] at hv
          cases hv
      | some w =>
          rw [hmp.unpackb_value b w hb] at hv
          cases hv
          exact ⟨b, v, rfl, hb, hlength, hpayload, values, hvalues, hdecoded⟩

/-- From a negative offset the loop never returns, if the input is longer than any
length a single byte can stand for: the offset stays negative, because a slice
that reaches past the wrap-around is empty. -/
theorem parseLoop_neg_ne_ok (hmp : Documented mp) {raw : List UInt8} (hraw : 128 ≤ raw.length)
    (fuel : Nat) : ∀ (offset : Int) (messages result : List Message), offset < 0 →
      parseLoop mp raw fuel offset messages ≠ some (.ok result) := by
  induction fuel with
  | zero =>
      intro offset messages result _ h
      cases h
  | succ fuel ih =>
      intro offset messages result hneg h
      rw [parseLoop, if_pos (by omega)] at h
      split at h
      · cases h
      rename_i n message hstep
      obtain ⟨b, v, hslice, hb, hn, hpayload, -⟩ := parseStep_ok hmp hstep
      have hrange := headByte_asInt hb hn
      have hnext : offset + n + 1 < 0 := by
        by_contra hnonneg
        apply hpayload
        apply slice_eq_nil
        have hwidth : (slice raw offset (offset + 1)).length = 1 := by rw [hslice]; rfl
        rw [length_slice, bound_of_neg hneg] at hwidth
        rw [bound_of_nonneg (by omega)]
        by_cases hlast : offset + 1 < 0
        · rw [bound_of_neg hlast] at hwidth ⊢
          omega
        · rw [bound_of_nonneg (by omega)] at hwidth
          omega
      exact ih _ _ _ hnext h

/-- The loop never returns once it is at a frame of 128 bytes or more. -/
theorem parseLoop_long_frame_ne_ok (hmp : Documented mp) (before after : List UInt8)
    {payload : List UInt8} (hlong : 128 ≤ payload.length) (fuel : Nat)
    (messages result : List Message) :
    parseLoop mp (before ++ frame payload ++ after) fuel before.length messages ≠
      some (.ok result) := by
  obtain ⟨b, c, rest, hprefix, hcont⟩ := toVarint_of_le hlong
  set raw := before ++ frame payload ++ after with hraw
  have hcons : raw = before ++ b :: c :: (rest ++ payload ++ after) := by
    simp [hraw, frame, hprefix]
  cases fuel with
  | zero =>
      intro h
      cases h
  | succ fuel =>
      intro h
      have hlen : raw.length = before.length + 2 + (rest ++ payload ++ after).length := by
        rw [hcons]
        simp
        omega
      rw [parseLoop, if_pos (by omega)] at h
      split at h
      · cases h
      rename_i n message hstep
      obtain ⟨b', v, hslice, hb, hn, hpayload, values, hvalues, hmessage⟩ := parseStep_ok hmp hstep
      obtain rfl : b' = b := by
        have hfirst := slice_append_append before [b] (c :: (rest ++ payload ++ after))
        rw [List.append_assoc, List.singleton_append, ← hcons] at hfirst
        have hfirst' : slice raw before.length (before.length + 1) = [b] := by
          simpa using hfirst
        rw [hslice] at hfirst'
        exact List.head_eq_of_cons_eq hfirst'
      -- a first byte from 128 on is read as `0`, as `1` or as a negative length
      rcases headByte_asInt_of_le hcont hb hn with rfl | rfl | hneg
      · exact hpayload (slice_eq_nil_of_nonneg (by omega) (by omega))
      · -- the payload slice is the second byte of the prefix
        have hsecond := slice_append_append (before ++ [b']) [c] (rest ++ payload ++ after)
        rw [List.append_assoc, List.append_assoc, List.singleton_append, List.singleton_append,
          ← hcons] at hsecond
        have hsecond' : slice raw (before.length + 1) (before.length + 1 + 1) = [c] := by
          simpa using hsecond
        rw [hsecond'] at hvalues
        cases hc : headByte c with
        | none =>
            obtain ⟨e, he⟩ := hmp.unpackb_incomplete c hc
            rw [he] at hvalues
            cases hvalues
        | some w =>
            rw [hmp.unpackb_value c w hc] at hvalues
            cases hvalues
            exact decodeMessage_headByte hc message hmessage
      · by_cases hnext : (before.length : Int) + n + 1 < 0
        · refine parseLoop_neg_ne_ok hmp ?_ fuel _ _ _ hnext h
          rw [hlen]
          simp only [List.length_append]
          omega
        · exact hpayload (slice_eq_nil_of_nonneg (by omega) (by omega))

/-- The loop never returns from a batch with a payload of 128 bytes or more.  The
induction is on the batch; the short frames before the first long one are read. -/
theorem parseLoop_frames_ne_ok (hmp : Documented mp) (batch : List (Payload mp))
    (hlong : ∃ p ∈ batch, 128 ≤ p.bytes.length) (result : List Message) :
    ∀ (before : List UInt8) (fuel : Nat) (messages : List Message),
      parseLoop mp (before ++ batch.flatMap fun p => frame p.bytes) fuel before.length messages ≠
        some (.ok result) := by
  induction batch with
  | nil => simp at hlong
  | cons p batch ih =>
      intro before fuel messages
      have hraw : (before ++ (p :: batch).flatMap fun p => frame p.bytes) =
          before ++ frame p.bytes ++ batch.flatMap fun p => frame p.bytes := by
        simp
      rw [hraw]
      -- a short frame is read, and the long one is still to come
      by_cases hp : p.bytes.length < 128
      · have hlong' : ∃ q ∈ batch, 128 ≤ q.bytes.length := by
          obtain ⟨q, hq, hlen⟩ := hlong
          rcases List.mem_cons.mp hq with rfl | hq
          · omega
          · exact ⟨q, hq, hlen⟩
        cases fuel with
        | zero =>
            intro h
            cases h
        | succ fuel =>
            have hlen : (frame p.bytes).length = p.bytes.length + 1 := by
              simp [frame, toVarint_of_lt hp]
            have hnext := ih hlong' (before ++ frame p.bytes) fuel (messages ++ [p.message])
            have hoffset : ((before.length : Int) + p.bytes.length + 1) =
                ((before ++ frame p.bytes).length : Nat) := by
              simp [hlen]
              ring
            rw [parseLoop, if_pos (by simp only [List.length_append, hlen]; omega),
              parseStep_frame hmp before _ p hp]
            simpa only [hoffset] using hnext
      · exact parseLoop_long_frame_ne_ok hmp before _ (not_lt.mp hp) fuel messages result

/-- A batch with a payload of 128 bytes or more is never read back. -/
theorem parseMessages_frames_ne_ok (hmp : Documented mp) (batch : List (Payload mp))
    (hlong : ∃ p ∈ batch, 128 ≤ p.bytes.length) (result : List Message) :
    parseMessages mp (batch.flatMap fun p => frame p.bytes) ≠ some (.ok result) :=
  parseLoop_frames_ne_ok hmp batch hlong result [] _ []

/-! ## A fragment of MessagePack -/

mutual

/-- The value at the start of the input, and the bytes behind it. -/
def unpackValue : Nat → List UInt8 → Option (Value × List UInt8)
  | 0, _ => none
  | _, [] => none
  | fuel + 1, b :: rest =>
      if b < 0x80 then some (.int b.toNat, rest)
      else if b = 0x80 then some (.dict [], rest)
      else if 0x90 ≤ b ∧ b < 0xa0 then
        (unpackItems fuel (b.toNat - 0x90) rest).map fun (items, rest) => (.list items, rest)
      else if 0xa0 ≤ b ∧ b < 0xc0 then
        let length := b.toNat - 0xa0
        if length ≤ rest.length then
          some (.str (String.ofList ((rest.take length).map fun c => Char.ofNat c.toNat)),
            rest.drop length)
        else none
      else if b = 0xc0 then some (.none, rest)
      else if b = 0xc2 then some (.bool false, rest)
      else if b = 0xc3 then some (.bool true, rest)
      else if b = 0xc4 then
        match rest with
        | [] => none
        | n :: rest =>
            if n.toNat ≤ rest.length then
              some (.bytes (rest.take n.toNat), rest.drop n.toNat)
            else none
      else if 0xe0 ≤ b then some (.int (b.toNat - 256), rest)
      else none

/-- The given number of values at the start of the input. -/
def unpackItems : Nat → Nat → List UInt8 → Option (List Value × List UInt8)
  | 0, _, _ => none
  | _, 0, rest => some ([], rest)
  | fuel + 1, count + 1, rest =>
      match unpackValue fuel rest with
      | none => none
      | some (item, rest) =>
          (unpackItems fuel count rest).map fun (items, rest) => (item :: items, rest)

end

/-- Small integers, booleans, `None`, short strings, byte strings and short
arrays, for concrete frames.  Extra bytes raise as well. -/
def fragment : Msgpack where
  packb := fun _ => .error .typeError
  unpackb := fun bs =>
    match bs with
    | [] => .error (.valueError "Unpack failed: incomplete input")
    | [b] =>
        match headByte b with
        | some value => .ok value
        | none => .error (.valueError "Unpack failed: incomplete input")
    | bs =>
        match unpackValue (bs.length + 1) bs with
        | some (value, []) => .ok value
        | _ => .error (.valueError "unpack(b) received extra data.")

theorem fragment_documented : Documented fragment where
  unpackb_nil := ⟨_, rfl⟩
  unpackb_value := by
    intro b v hb
    simp [fragment, hb]
  unpackb_incomplete := by
    intro b hb
    simp [fragment, hb]

/-- `[6]`, a ping. -/
def pingPayload : Payload fragment where
  bytes := [0x91, 0x06]
  values := .list [.int 6]
  message := .ping
  unpacked := rfl
  accepted := rfl

set_option maxRecDepth 4000 in
/-- `[2, {}, "1", item]`, a stream item of 128 zero bytes. -/
def longItemPayload : Payload fragment where
  bytes := [0x94, 0x02, 0x80, 0xa1, 0x31, 0xc4, 0x80] ++ List.replicate 128 0
  values := .list [.int 2, .dict [], .str "1", .bytes (List.replicate 128 0)]
  message := .streamItem (.dict []) (.str "1") (.bytes (List.replicate 128 0))
  unpacked := by rfl
  accepted := by rfl

/-! ## Which batches are read back -/

/-- A batch of frames is read back message by message exactly when every payload
is shorter than 128 bytes. -/
theorem parseMessages_frames_iff (hmp : Documented mp) (batch : List (Payload mp)) :
    parseMessages mp (batch.flatMap fun p => frame p.bytes) =
        some (.ok (batch.map (·.message))) ↔
      ∀ p ∈ batch, p.bytes.length < 128 := by
  constructor
  · intro hread p hp
    by_contra hlen
    exact parseMessages_frames_ne_ok hmp batch ⟨p, hp, not_lt.mp hlen⟩ _ hread
  · exact parseMessages_frames hmp batch

/-- Two pings in one websocket frame. -/
theorem parseMessages_two_pings :
    parseMessages fragment ([pingPayload, pingPayload].flatMap fun p => frame p.bytes) =
      some (.ok [.ping, .ping]) :=
  (parseMessages_frames_iff fragment_documented [pingPayload, pingPayload]).mpr (by decide)

/-- A stream item of 135 bytes is not read back: `unpackb` raises on the first
byte of its two-byte prefix. -/
theorem parseMessages_longItem :
    Documented fragment ∧
      parseMessages fragment ([longItemPayload].flatMap fun p => frame p.bytes) ≠
        some (.ok ([longItemPayload].map (·.message))) := by
  have hlen : 128 ≤ longItemPayload.bytes.length := by
    simp [longItemPayload]
  exact ⟨fragment_documented,
    parseMessages_frames_ne_ok fragment_documented _ ⟨longItemPayload, by simp, hlen⟩ _⟩

end MessagePackHubProtocol
end GeventSignalR
