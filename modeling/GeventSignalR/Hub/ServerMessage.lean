import GeventSignalR.Hub.Connection
import GeventSignalR.Protocol.JsonRoundTrip
import GeventSignalR.Protocol.MessagePack

/-!
# What a server message means

A server sends one message as a JSON object or as a MessagePack array.  This file
compares what `get_message` and `_decode_message` make of the two.

* `ServerMessage` is a message without a representation, `members` and `array` are its
  two representations.
* `meaning` is the hub message it stands for.
* `decoders_agree_iff` says for which messages both decoders give that.  The array of an
  invocation with stream ids is decoded to a class that `on_message` passes to no handler.
-/

namespace GeventSignalR

/-- How an invocation ended. -/
inductive CompletionOutcome where
  | error (error : Value)
  | result (result : Value)
  | void

/-- A message a server sends. -/
inductive ServerMessage where
  | invocation (headers invocationId : Option Value) (target arguments : Value)
      (streamIds : List Value)
  | streamItem (headers : Option Value) (invocationId item : Value)
  | completion (headers : Option Value) (invocationId : Value) (outcome : CompletionOutcome)
  | streamInvocation (headers : Option Value) (invocationId target arguments : Value)
      (streamIds : List Value)
  | cancelInvocation (headers : Option Value) (invocationId : Value)
  | ping
  | close (error : Option Value)

namespace ServerMessage

/-- A member that may be absent. -/
def optional (name : String) (value : Option Value) : Dict :=
  value.toList.map fun value => (.str name, value)

/-- The members of the JSON object. -/
def members : ServerMessage → Dict
  | .invocation headers invocationId target arguments streamIds =>
      (.str "type", .int 1) :: (.str "target", target) :: (.str "arguments", arguments) ::
        (.str "streamIds", .list streamIds) ::
        (optional "headers" headers ++ optional "invocationId" invocationId)
  | .streamItem headers invocationId item =>
      (.str "type", .int 2) :: (.str "invocationId", invocationId) :: (.str "item", item) ::
        optional "headers" headers
  | .completion headers invocationId outcome =>
      (.str "type", .int 3) :: (.str "invocationId", invocationId) ::
        (optional "headers" headers ++
          match outcome with
          | .error error => [(.str "error", error)]
          | .result result => [(.str "result", result)]
          | .void => [])
  | .streamInvocation headers invocationId target arguments streamIds =>
      (.str "type", .int 4) :: (.str "invocationId", invocationId) :: (.str "target", target) ::
        (.str "arguments", arguments) :: (.str "streamIds", .list streamIds) ::
        optional "headers" headers
  | .cancelInvocation headers invocationId =>
      (.str "type", .int 5) :: (.str "invocationId", invocationId) :: optional "headers" headers
  | .ping => [(.str "type", .int 6)]
  | .close error => (.str "type", .int 7) :: optional "error" error

/-- The names of all members. -/
def memberNames : List String :=
  ["type", "headers", "invocationId", "target", "arguments", "streamIds", "item", "result", "error"]

/-- The dictionary is the message's JSON object: its members, in any order, among others
that have no meaning. -/
def IsObjectOf (m : ServerMessage) (d : Dict) : Prop :=
  ∀ name ∈ memberNames, d.get? name = m.members.get? name

/-- The MessagePack array.  Absent headers are an empty map, and other absent fields are
nil. -/
def array : ServerMessage → Value
  | .invocation headers invocationId target arguments streamIds =>
      .list [.int 1, headers.getD (.dict []), invocationId.getD .none, target, arguments,
        .list streamIds]
  | .streamItem headers invocationId item =>
      .list [.int 2, headers.getD (.dict []), invocationId, item]
  | .completion headers invocationId (.error error) =>
      .list [.int 3, headers.getD (.dict []), invocationId, .int 1, error]
  | .completion headers invocationId .void =>
      .list [.int 3, headers.getD (.dict []), invocationId, .int 2]
  | .completion headers invocationId (.result result) =>
      .list [.int 3, headers.getD (.dict []), invocationId, .int 3, result]
  | .streamInvocation headers invocationId target arguments streamIds =>
      .list [.int 4, headers.getD (.dict []), invocationId, target, arguments, .list streamIds]
  | .cancelInvocation headers invocationId =>
      .list [.int 5, headers.getD (.dict []), invocationId]
  | .ping => .list [.int 6]
  | .close error => .list [.int 7, error.getD .none]

/-- The stream ids of an invocation. -/
def streamIds : ServerMessage → List Value
  | .invocation _ _ _ _ streamIds => streamIds
  | _ => []

/-- Its type. -/
def type : ServerMessage → MessageType
  | .invocation .. => .invocation
  | .streamItem .. => .streamItem
  | .completion .. => .completion
  | .streamInvocation .. => .streamInvocation
  | .cancelInvocation .. => .cancelInvocation
  | .ping => .ping
  | .close _ => .close

/-- The hub message it stands for. -/
def meaning : ServerMessage → Message
  | .invocation headers invocationId target arguments _ =>
      .newInvocation (invocationId.getD .none) (headers.getD .none) target arguments
  | .streamItem headers invocationId item =>
      .newStreamItem invocationId (headers.getD .none) item
  | .completion headers invocationId (.error error) =>
      .newCompletion invocationId (headers.getD .none) .none error
  | .completion headers invocationId .void =>
      .newCompletion invocationId (headers.getD .none) .none .none
  | .completion headers invocationId (.result result) =>
      .newCompletion invocationId (headers.getD .none) result .none
  | .streamInvocation headers invocationId target arguments _ =>
      .newStreamInvocation invocationId (headers.getD .none) target arguments
  | .cancelInvocation headers invocationId =>
      .newCancelInvocation invocationId (headers.getD .none)
  | .ping => .ping
  | .close error => .close (error.getD .none)

/-! ## The two decoders -/

/-- What `get_message` reads of an object is what the message has. -/
theorem IsObjectOf.get {m : ServerMessage} {d : Dict} (h : m.IsObjectOf d) (name : String)
    (hname : name ∈ memberNames) : d.get name = m.members.get name := by
  unfold Dict.get
  rw [h name hname]

theorem IsObjectOf.getItem {m : ServerMessage} {d : Dict} (h : m.IsObjectOf d) (name : String)
    (hname : name ∈ memberNames) : d.getItem name = m.members.getItem name := by
  unfold Dict.getItem
  rw [h name hname]

theorem messageType_members (m : ServerMessage) :
    BaseHubProtocol.messageType m.members = .ok m.type := by
  cases m <;> rfl

theorem IsObjectOf.messageType {m : ServerMessage} {d : Dict} (h : m.IsObjectOf d) :
    BaseHubProtocol.messageType d = .ok m.type := by
  rw [← messageType_members]
  unfold BaseHubProtocol.messageType
  rw [h "type" (by decide)]

@[simp] theorem get?_optional (name key : String) (value : Option Value) :
    Dict.get? (optional name value) key = if name = key then value else none := by
  cases value with
  | none => simp [optional]
  | some value => simp [optional]

@[simp] theorem get?_optional_append (name key : String) (value : Option Value) (d : Dict) :
    Dict.get? (optional name value ++ d) key =
      if name = key then value.or (d.get? key) else d.get? key := by
  cases value with
  | none => simp [optional]
  | some value => simp [optional]

/-- `get_message` reads the members of the message, and nothing else. -/
theorem getMessage_object {m : ServerMessage} {d : Dict} (h : m.IsObjectOf d) :
    BaseHubProtocol.getMessage d = .ok m.meaning := by
  rw [MyEncoder.getMessage_eq, h.messageType, h.get "headers" (by decide),
    h.get "invocationId" (by decide), h.get "result" (by decide), h.get "error" (by decide),
    h.getItem "target" (by decide), h.getItem "arguments" (by decide), h.getItem "item" (by decide)]
  cases m with
  | completion headers invocationId outcome =>
      cases outcome <;> simp [members, meaning, type, Dict.get, bind, Except.bind, pure, Except.pure]
  | _ =>
      simp [members, meaning, type, Dict.get, Dict.getItem, bind, Except.bind, pure, Except.pure]

/-- `_decode_message` decodes an array to what the message stands for, unless it is an
invocation with stream ids. -/
theorem decodeMessage_array {m : ServerMessage} (h : m.streamIds = []) :
    MessagePackHubProtocol.decodeMessage m.array = .ok m.meaning := by
  cases m with
  | invocation headers invocationId target arguments streamIds =>
      cases h
      -- absent headers and an empty map of headers are stored alike
      cases headers <;> rfl
  | streamItem headers invocationId item => cases headers <;> rfl
  | completion headers invocationId outcome => cases outcome <;> cases headers <;> rfl
  | streamInvocation headers invocationId target arguments streamIds => cases headers <;> rfl
  | cancelInvocation headers invocationId => cases headers <;> rfl
  | ping => rfl
  | close error => rfl

/-- An invocation with stream ids is decoded to the class of the client's own stream
invocations, without its invocation id. -/
theorem decodeMessage_array_streamIds (headers invocationId : Option Value)
    (target arguments streamId : Value) (streamIds : List Value) :
    MessagePackHubProtocol.decodeMessage
        (array (.invocation headers invocationId target arguments (streamId :: streamIds))) =
      .ok (.newInvocationClientStream (.list (streamId :: streamIds)) (headers.getD (.dict []))
        target arguments) := rfl

/-- Both decoders give one message, of one class with the same fields, and `on_message`
does the same with it. -/
def MeansSame (m : ServerMessage) (d : Dict) : Prop :=
  ∃ m₁ m₂, BaseHubProtocol.getMessage d = .ok m₁ ∧
    MessagePackHubProtocol.decodeMessage m.array = .ok m₂ ∧ m₁ = m₂ ∧
      Connection.onMessage [m₁] = Connection.onMessage [m₂]

/-- The two protocols agree on a message if and only if it is no invocation with stream
ids. -/
theorem meansSame_iff {m : ServerMessage} {d : Dict} (h : m.IsObjectOf d) :
    m.MeansSame d ↔ m.streamIds = [] := by
  constructor
  · rintro ⟨m₁, m₂, hget, hdecode, rfl, -⟩
    rw [getMessage_object h] at hget
    cases m with
    | invocation headers invocationId target arguments streamIds =>
        cases streamIds with
        | nil => rfl
        | cons streamId streamIds =>
            rw [decodeMessage_array_streamIds, ← hget] at hdecode
            cases hdecode
    | _ => rfl
  · intro hids
    exact ⟨m.meaning, m.meaning, getMessage_object h, decodeMessage_array hids, rfl, rfl⟩

/-- An invocation of `Notify` with one argument, and the given stream ids. -/
def notify (streamIds : List Value) : ServerMessage :=
  .invocation none (some (.str "1")) (.str "Notify") (.list [.int 42]) streamIds

/-- An invocation without stream ids reaches the handlers of its target under both
protocols. -/
theorem meansSame_notify : (notify []).MeansSame (notify []).members :=
  (meansSame_iff fun _ _ => rfl).mpr rfl

/-- With a stream id, the JSON object is an invocation, for which `on_message` calls the
handlers of the target, and the array a message that it passes over. -/
theorem not_meansSame_notify :
    ¬(notify [.str "2"]).MeansSame (notify [.str "2"]).members ∧
      ∃ m₁ m₂, BaseHubProtocol.getMessage (notify [.str "2"]).members = .ok m₁ ∧
        MessagePackHubProtocol.decodeMessage (notify [.str "2"]).array = .ok m₂ ∧
          Connection.dispatch m₁ =
            Connection.dispatchInvocation (.str "Notify") (.list [.int 42]) ∧
          Connection.dispatch m₂ = pure () := by
  constructor
  · rintro ⟨m₁, m₂, hget, hdecode, hsame, -⟩
    rw [hsame] at hget
    cases hget
    cases hdecode
  · exact ⟨_, _, rfl, rfl, rfl, rfl⟩

end ServerMessage

end GeventSignalR
