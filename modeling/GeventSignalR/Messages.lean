import GeventSignalR.Python.Value

/-!
# Hub messages

The message classes of `geventsignalrclient.messages`.  A message is modelled by
its class and the attributes its constructor assigns.  The attributes hold
arbitrary Python values, because neither the constructors nor the decoders check
them.
-/

namespace GeventSignalR

/-- `MessageType`. -/
inductive MessageType where
  | invocation
  | streamItem
  | completion
  | streamInvocation
  | cancelInvocation
  | ping
  | close
  | invocationBindingFailure
  deriving DecidableEq, Repr

namespace MessageType

/-- The enumeration's value of a member. -/
def value : MessageType → Int
  | invocation => 1
  | streamItem => 2
  | completion => 3
  | streamInvocation => 4
  | cancelInvocation => 5
  | ping => 6
  | close => 7
  | invocationBindingFailure => -1

/-- The members in the order of their definition. -/
def members : List MessageType :=
  [invocation, streamItem, completion, streamInvocation, cancelInvocation, ping, close,
    invocationBindingFailure]

/-- `MessageType(value)`. -/
def ofValue (value : Value) : Except Exc MessageType :=
  match members.find? fun member => value.eqInt member.value with
  | some member => .ok member
  | none => .error (.valueError "is not a valid MessageType")

@[simp] theorem ofValue_value (t : MessageType) : ofValue (.int t.value) = .ok t := by
  cases t <;> rfl

end MessageType

/-- A message of one of the hub message classes. -/
inductive Message where
  /-- `InvocationMessage` -/
  | invocation (headers invocationId target arguments : Value)
  /-- `InvocationClientStreamMessage` -/
  | invocationClientStream (headers target arguments streamIds : Value)
  /-- `StreamItemMessage` -/
  | streamItem (headers invocationId item : Value)
  /-- `CompletionMessage` -/
  | completion (headers invocationId result error : Value)
  /-- `CompletionClientStreamMessage` -/
  | completionClientStream (headers invocationId : Value)
  /-- `StreamInvocationMessage` -/
  | streamInvocation (headers invocationId target arguments streamIds : Value)
  /-- `CancelInvocationMessage` -/
  | cancelInvocation (headers invocationId : Value)
  /-- `PingMessage` -/
  | ping
  /-- `CloseMessage` -/
  | close (error : Value)

namespace Message

/-- The headers `BaseHeadersMessage.__init__` stores. -/
def headersOrEmpty (headers : Value) : Value :=
  if headers.isNone then .dict [] else headers

/-! ## Constructors of the classes -/

/-- `InvocationMessage(...)`. -/
def newInvocation (invocationId headers target arguments : Value) : Message :=
  .invocation (headersOrEmpty headers) invocationId target arguments

/-- `InvocationClientStreamMessage(...)`. -/
def newInvocationClientStream (streamIds headers target arguments : Value) : Message :=
  .invocationClientStream (headersOrEmpty headers) target arguments streamIds

/-- `StreamItemMessage(...)`. -/
def newStreamItem (invocationId headers item : Value) : Message :=
  .streamItem (headersOrEmpty headers) invocationId item

/-- `CompletionMessage(...)`. -/
def newCompletion (invocationId headers result error : Value) : Message :=
  .completion (headersOrEmpty headers) invocationId result error

/-- `CompletionClientStreamMessage(...)`. -/
def newCompletionClientStream (invocationId headers : Value) : Message :=
  .completionClientStream (headersOrEmpty headers) invocationId

/-- `StreamInvocationMessage(...)`, which always starts without stream ids. -/
def newStreamInvocation (invocationId headers target arguments : Value) : Message :=
  .streamInvocation (headersOrEmpty headers) invocationId target arguments (.list [])

/-- `CancelInvocationMessage(...)`. -/
def newCancelInvocation (invocationId headers : Value) : Message :=
  .cancelInvocation (headersOrEmpty headers) invocationId

/-- `message.type`. -/
def type : Message → MessageType
  | invocation .. | invocationClientStream .. => .invocation
  | streamItem .. => .streamItem
  | completion .. | completionClientStream .. => .completion
  | streamInvocation .. => .streamInvocation
  | cancelInvocation .. => .cancelInvocation
  | ping => .ping
  | close .. => .close

/-- The attributes of a message besides `type`, in the order of assignment. -/
def attributes : Message → Dict
  | invocation headers invocationId target arguments =>
      [(.str "headers", headers), (.str "invocation_id", invocationId), (.str "target", target),
        (.str "arguments", arguments)]
  | invocationClientStream headers target arguments streamIds =>
      [(.str "headers", headers), (.str "target", target), (.str "arguments", arguments),
        (.str "stream_ids", streamIds)]
  | streamItem headers invocationId item =>
      [(.str "headers", headers), (.str "invocation_id", invocationId), (.str "item", item)]
  | completion headers invocationId result error =>
      [(.str "headers", headers), (.str "invocation_id", invocationId), (.str "result", result),
        (.str "error", error)]
  | completionClientStream headers invocationId =>
      [(.str "headers", headers), (.str "invocation_id", invocationId)]
  | streamInvocation headers invocationId target arguments streamIds =>
      [(.str "headers", headers), (.str "invocation_id", invocationId), (.str "target", target),
        (.str "arguments", arguments), (.str "stream_ids", streamIds)]
  | cancelInvocation headers invocationId =>
      [(.str "headers", headers), (.str "invocation_id", invocationId)]
  | ping => []
  | close error => [(.str "error", error)]

/-- `message.__dict__`, with the value of the enumeration member in `type`. -/
def dict (message : Message) : Dict :=
  (.str "type", .int message.type.value) :: message.attributes

end Message

/-- `HandshakeRequestMessage`. -/
structure HandshakeRequestMessage where
  protocol : String
  version : Int
  deriving DecidableEq, Repr

/-- `HandshakeResponseMessage`. -/
structure HandshakeResponseMessage where
  error : Value

/-- What `WebsocketTransport.send` is called with. -/
inductive Outgoing where
  | handshake (request : HandshakeRequestMessage)
  | hub (message : Message)

/-- The payload of one websocket frame. -/
inductive Raw where
  | text (s : String)
  | binary (bs : List UInt8)
  deriving DecidableEq, Repr

end GeventSignalR
