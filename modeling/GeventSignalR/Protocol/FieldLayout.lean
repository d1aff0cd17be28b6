import Mathlib.Tactic
import GeventSignalR.Protocol.MessagePack

/-!
# The positions of a MessagePack array

The encoder appends whichever attributes of the priority list a message has; the
decoder reads fixed positions.  This file compares the two class by class.

* `tabulated` is the table in the comment of `_decode_message`, as a function.
* `RoundTrips` says that a message is written as tabulated and read back as a
  message of its class with its fields.
* `roundTrips_iff` says for which messages that is so.  A class that lacks an
  attribute of the table writes a shorter array, and the decoder indexes past it
  or takes one field for another.
-/

namespace GeventSignalR

namespace Message

/-- `type(message).__name__`. -/
def className : Message → String
  | invocation .. => "InvocationMessage"
  | invocationClientStream .. => "InvocationClientStreamMessage"
  | streamItem .. => "StreamItemMessage"
  | completion .. => "CompletionMessage"
  | completionClientStream .. => "CompletionClientStreamMessage"
  | streamInvocation .. => "StreamInvocationMessage"
  | cancelInvocation .. => "CancelInvocationMessage"
  | ping => "PingMessage"
  | close .. => "CloseMessage"

/-- The attributes a message carries to its receiver. -/
def carried : List String :=
  ["invocation_id", "target", "arguments", "stream_ids", "item", "result", "error"]

/-- Two messages of one class with the same fields. -/
def SameContent (m m' : Message) : Prop :=
  m.className = m'.className ∧
    ∀ name ∈ carried, m.attributes.get? name = m'.attributes.get? name

theorem SameContent.refl (m : Message) : SameContent m m :=
  ⟨rfl, fun _ _ => rfl⟩

end Message

namespace MessagePackHubProtocol

open Message

/-- The array the table in `_decode_message` gives for a message. -/
def tabulated : Message → Value
  | .invocation headers invocationId target arguments =>
      .list [.int 1, headers, invocationId, target, arguments, .list []]
  | .invocationClientStream headers target arguments streamIds =>
      .list [.int 1, headers, .none, target, arguments, streamIds]
  | .streamItem headers invocationId item => .list [.int 2, headers, invocationId, item]
  | .completion headers invocationId result error =>
      if ¬ error.isNone then .list [.int 3, headers, invocationId, .int 1, error]
      else if result.isNone then .list [.int 3, headers, invocationId, .int 2]
      else .list [.int 3, headers, invocationId, .int 3, result]
  | .completionClientStream headers invocationId => .list [.int 3, headers, invocationId, .int 2]
  | .streamInvocation headers invocationId target arguments streamIds =>
      .list [.int 4, headers, invocationId, target, arguments, streamIds]
  | .cancelInvocation headers invocationId => .list [.int 5, headers, invocationId]
  | .ping => .list [.int 6]
  | .close error => .list [.int 7, error]

/-- The message is written as tabulated, and read back as it was. -/
def RoundTrips (m : Message) : Prop :=
  encodeMessage m = tabulated m ∧
    ∃ m', decodeMessage (encodeMessage m) = .ok m' ∧ SameContent m m'

/-- The attributes of the message are its tabulated positions: a stream item, a
cancellation, a ping, or a stream invocation as its constructor builds it, with
no stream ids. -/
def Positional : Message → Prop
  | .streamItem .. | .cancelInvocation .. | .ping => True
  | .streamInvocation _ _ _ _ streamIds => streamIds = .list []
  | _ => False

/-! ## Completions -/

theorem encodeMessage_completion (headers invocationId result error : Value) :
    encodeMessage (.completion headers invocationId result error) =
      .list [.int 3, headers, invocationId, result] := rfl

/-- A completion is read with its result in the place of the result kind. -/
theorem decodeMessage_completion_result (headers invocationId result : Value) :
    decodeMessage (.list [.int 3, headers, invocationId, result]) =
      if result.eqInt 1 then .error .indexError
      else if result.eqInt 2 then
        .ok (.newCompletion invocationId headers .none .none)
      else if result.eqInt 3 then .error .indexError
      else .error (.exception "Unknown result kind.") := rfl

theorem eqInt_none (n : Int) : Value.none.eqInt n = false := rfl

/-- No completion survives: either the decoder raises, or it drops the result. -/
theorem not_roundTrips_completion (headers invocationId result error : Value) :
    ¬ RoundTrips (.completion headers invocationId result error) := by
  rintro ⟨-, m', hdecode, -, hfields⟩
  rw [encodeMessage_completion, decodeMessage_completion_result] at hdecode
  split_ifs at hdecode with h1 h2 h3
  cases hdecode
  have hresult : some result = some Value.none := hfields "result" (by simp [carried])
  rw [Option.some.inj hresult, eqInt_none] at h2
  cases h2

/-! ## The classes -/

theorem not_roundTrips_of_error {m : Message} {e : Exc}
    (h : decodeMessage (encodeMessage m) = .error e) : ¬ RoundTrips m := by
  rintro ⟨-, m', hdecode, -⟩
  rw [h] at hdecode
  cases hdecode

/-- The round trip of a stream invocation loses its stream ids. -/
theorem roundTrips_streamInvocation_iff (headers invocationId target arguments streamIds : Value) :
    RoundTrips (.streamInvocation headers invocationId target arguments streamIds) ↔
      streamIds = .list [] := by
  constructor
  · rintro ⟨-, m', hdecode, -, hfields⟩
    cases hdecode
    exact Option.some.inj (hfields "stream_ids" (by simp [carried]))
  · rintro rfl
    refine ⟨rfl, _, rfl, rfl, ?_⟩
    intro name hname
    simp only [carried, List.mem_cons, List.not_mem_nil, or_false] at hname
    rcases hname with rfl | rfl | rfl | rfl | rfl | rfl | rfl <;> rfl

/-- The messages that keep their fields: exactly those of the four classes whose
attributes are the tabulated positions. -/
theorem roundTrips_iff (m : Message) : RoundTrips m ↔ Positional m := by
  cases m with
  | invocation headers invocationId target arguments =>
      exact iff_false_intro (not_roundTrips_of_error rfl)
  | invocationClientStream headers target arguments streamIds =>
      exact iff_false_intro (not_roundTrips_of_error rfl)
  | streamItem headers invocationId item =>
      refine iff_true_intro ⟨rfl, _, rfl, rfl, ?_⟩
      intro name hname
      simp only [carried, List.mem_cons, List.not_mem_nil, or_false] at hname
      rcases hname with rfl | rfl | rfl | rfl | rfl | rfl | rfl <;> rfl
  | completion headers invocationId result error =>
      exact iff_false_intro (not_roundTrips_completion _ _ _ _)
  | completionClientStream headers invocationId =>
      exact iff_false_intro (not_roundTrips_of_error rfl)
  | streamInvocation headers invocationId target arguments streamIds =>
      exact roundTrips_streamInvocation_iff _ _ _ _ _
  | cancelInvocation headers invocationId =>
      refine iff_true_intro ⟨rfl, _, rfl, rfl, ?_⟩
      intro name hname
      simp only [carried, List.mem_cons, List.not_mem_nil, or_false] at hname
      rcases hname with rfl | rfl | rfl | rfl | rfl | rfl | rfl <;> rfl
  | ping => exact iff_true_intro ⟨rfl, _, rfl, SameContent.refl _⟩
  | close error => exact iff_false_intro (not_roundTrips_of_error rfl)

/-- The invocation a plain `Connection.send("Send", [42])` writes is not read
back: it has no array of stream ids. -/
theorem not_roundTrips_send :
    ¬ RoundTrips (.newInvocation (.str "123") .none (.str "Send") (.list [.int 42])) :=
  not_roundTrips_of_error (e := .indexError) rfl

end MessagePackHubProtocol

end GeventSignalR
