import GeventSignalR.Protocol.Base
import GeventSignalR.Python.Slice

/-!
# The MessagePack protocol

`MessagePackHubProtocol`: a frame is a length prefix followed by a MessagePack
array.  The `msgpack` package is a parameter of the model.

* `toVarint` writes the length prefix, seven bits a byte.
* `parseMessages` walks a frame with Python's slices.  It reads one byte of the
  length prefix, and it reads that byte as a MessagePack value.
* `decodeHandshake` reads the handshake response, which is JSON in this protocol too.
* `encodeMessage` and `decodeMessage` translate between a message and its array.
-/

namespace GeventSignalR

/-- The functions of the `msgpack` package. -/
structure Msgpack where
  packb : Value → Except Exc (List UInt8)
  unpackb : List UInt8 → Except Exc Value

namespace MessagePackHubProtocol

/-- The attributes that are written, in the order of the array. -/
def priority : List String :=
  ["type", "headers", "invocation_id", "target", "arguments", "item", "result_kind", "result",
    "stream_ids"]

/-- The loop of `_to_varint`. -/
def toVarintLoop (value : Nat) (buffer : List UInt8) : List UInt8 :=
  let byte := value &&& 0x7F
  if value >>> 7 ≠ 0 then
    toVarintLoop (value >>> 7) (buffer ++ [UInt8.ofNat (byte ||| 0x80)])
  else
    buffer ++ [UInt8.ofNat byte]
termination_by value
decreasing_by
  rename_i h
  simp only [Nat.shiftRight_eq_div_pow] at h ⊢
  omega

/-- `_to_varint`. -/
def toVarint (value : Nat) : List UInt8 :=
  toVarintLoop value []

/-- `_encode_message`: the attributes the message has, in the order of
`priority`. -/
def encodeMessage (message : Message) : Value :=
  .list (priority.filterMap fun name =>
    if name = "type" then some (.int message.type.value) else message.attributes.get? name)

/-- `_decode_message`. -/
def decodeMessage (raw : Value) : Except Exc Message := do
  -- {} {"error"}
  -- [1, Headers, InvocationId, Target, [Arguments], [StreamIds]]
  -- [2, Headers, InvocationId, Item]
  -- [3, Headers, InvocationId, ResultKind, Result]
  -- [4, Headers, InvocationId, Target, [Arguments], [StreamIds]]
  -- [5, Headers, InvocationId]
  -- [6]
  -- [7, Error, AllowReconnect?]
  let messageType ← raw.index 0
  if messageType.eqInt 1 then
    let streamIds ← raw.index 5
    if (← streamIds.len) > 0 then
      let headers ← raw.index 1
      return .newInvocationClientStream streamIds headers (← raw.index 3) (← raw.index 4)
    else
      let headers ← raw.index 1
      return .newInvocation (← raw.index 2) headers (← raw.index 3) (← raw.index 4)
  else if messageType.eqInt 2 then
    let headers ← raw.index 1
    return .newStreamItem (← raw.index 2) headers (← raw.index 3)
  else if messageType.eqInt 3 then
    let resultKind ← raw.index 3
    if resultKind.eqInt 1 then
      let headers ← raw.index 1
      return .newCompletion (← raw.index 2) headers .none (← raw.index 4)
    else if resultKind.eqInt 2 then
      let headers ← raw.index 1
      return .newCompletion (← raw.index 2) headers .none .none
    else if resultKind.eqInt 3 then
      let headers ← raw.index 1
      return .newCompletion (← raw.index 2) headers (← raw.index 4) .none
    else
      throw (.exception "Unknown result kind.")
  else if messageType.eqInt 4 then
    let headers ← raw.index 1
    return .newStreamInvocation (← raw.index 2) headers (← raw.index 3) (← raw.index 4)
  else if messageType.eqInt 5 then
    let headers ← raw.index 1
    return .newCancelInvocation (← raw.index 2) headers
  else if messageType.eqInt 6 then
    return .ping
  else if messageType.eqInt 7 then
    return .close (← raw.index 1)
  else
    throw (.exception "Unknown message type.")

/-- One iteration of the loop of `parse_messages`: the length it reads at
`offset` and the message it decodes behind it. -/
def parseStep (mp : Msgpack) (raw : List UInt8) (offset : Int) : Except Exc (Int × Message) := do
  let length ← (← mp.unpackb (Python.slice raw offset (offset + 1))).asInt
  let values ← mp.unpackb (Python.slice raw (offset + 1) (offset + length + 1))
  return (length, ← decodeMessage values)

/-- The loop of `parse_messages`.  The result is `none` where `fuel` iterations
do not end the loop. -/
def parseLoop (mp : Msgpack) (raw : List UInt8) :
    Nat → Int → List Message → Option (Except Exc (List Message))
  | 0, _, _ => none
  | fuel + 1, offset, messages =>
      if offset < raw.length then
        match parseStep mp raw offset with
        | .error e => some (.error e)
        | .ok (length, message) =>
            parseLoop mp raw fuel (offset + length + 1) (messages ++ [message])
      else
        some (.ok messages)

/-- `parse_messages` of a byte string. -/
def parseMessages (mp : Msgpack) (raw : List UInt8) : Option (Except Exc (List Message)) :=
  parseLoop mp raw (raw.length + 1) 0 []

/-- `decode_handshake` of a byte string: the response ends at the first separator, and the
bytes behind it are messages.  What the `try` block raises is raised again. -/
def decodeHandshakeBytes (json : PyJson) (mp : Msgpack) (rawMessage : List UInt8) :
    Option (Except Exc (HandshakeResponseMessage × List Message)) :=
  let hasVariousMessages := rawMessage.contains 0x1E
  let handshakeData :=
    if hasVariousMessages then rawMessage.take (rawMessage.idxOf 0x1E) else rawMessage
  let messages :=
    if hasVariousMessages then parseMessages mp (rawMessage.drop (rawMessage.idxOf 0x1E + 1))
    else some (.ok [])
  messages.map fun messages => do
    let messages ← messages
    let data ← json.loadsBytes handshakeData
    return (← BaseHubProtocol.handshakeResponse data, messages)

/-- `decode_handshake` of a string.  `0x1E in raw_message` raises a `TypeError`, and the
`except` clause reads the string up to its first closing brace. -/
def decodeHandshakeText (json : PyJson) (rawMessage : String) :
    Except Exc (HandshakeResponseMessage × List Message) := do
  let idx := rawMessage.toList.idxOf '\x7d'
  if rawMessage.toList.length ≤ idx then
    throw (.valueError "substring not found")
  let data ← json.loads (String.ofList (rawMessage.toList.take (idx + 1)))
  return (← BaseHubProtocol.handshakeResponse data, [])

/-- `decode_handshake`. -/
def decodeHandshake (json : PyJson) (mp : Msgpack) :
    Raw → Option (Except Exc (HandshakeResponseMessage × List Message))
  | .text s => some (decodeHandshakeText json s)
  | .binary bs => decodeHandshakeBytes json mp bs

/-- The frame around a packed message. -/
def frame (encodedMessage : List UInt8) : List UInt8 :=
  toVarint encodedMessage.length ++ encodedMessage

/-- `encode`. -/
def encode (json : PyJson) (mp : Msgpack) : Outgoing → Except Exc Raw
  | .handshake request => do
      let content ← json.dumps (.dict
        [(.str "protocol", .str request.protocol), (.str "version", .int request.version)])
      return .text (content ++ String.singleton BaseHubProtocol.recordSeparator)
  | .hub message => do
      let encodedMessage ← mp.packb (encodeMessage message)
      return .binary (frame encodedMessage)

end MessagePackHubProtocol

end GeventSignalR
