import GeventSignalR.Messages

/-!
# The hub protocols

`BaseHubProtocol`: what the transport asks of a protocol, and the two decoders
the protocols share.  Python's `json` module is a parameter; what is assumed of
it is stated where it is used.
-/

namespace GeventSignalR

/-- What a transport uses of its protocol.  The handshake request and pings can be encoded,
a message that cannot be encoded is not taken for a lost connection, and what a protocol
raises is an `Exception`. -/
structure HubProtocol where
  handshakeMessage : HandshakeRequestMessage
  encode : Outgoing → Except Exc Raw
  encode_handshake : ∃ raw, encode (.handshake handshakeMessage) = .ok raw
  encode_ping : ∃ raw, encode (.hub .ping) = .ok raw
  encode_error : ∀ {message e}, encode message = .error e → e.isConnectionLost = false
  encode_exception : ∀ {message e}, encode message = .error e → e.isException = true
  parseMessages : Raw → Except Exc (List Message)
  parse_exception : ∀ {raw e}, parseMessages raw = .error e → e.isException = true
  decodeHandshake : Raw → Except Exc (HandshakeResponseMessage × List Message)
  decode_exception : ∀ {raw e}, decodeHandshake raw = .error e → e.isException = true

/-- The functions of Python's `json` module.  `dumps` raises only for a value that is no
JSON, and what they raise is an `Exception`. -/
structure PyJson where
  dumps : Value → Except Exc String
  dumps_json : ∀ {value}, value.IsJson → ∃ text, dumps value = .ok text
  dumps_error : ∀ {value e}, dumps value = .error e → e.isConnectionLost = false
  dumps_exception : ∀ {value e}, dumps value = .error e → e.isException = true
  loads : String → Except Exc Value
  loads_exception : ∀ {text e}, loads text = .error e → e.isException = true
  /-- `json.loads` of a byte string. -/
  loadsBytes : List UInt8 → Except Exc Value

namespace BaseHubProtocol

/-- The record separator of both protocols, `chr(0x1E)`. -/
def recordSeparator : Char := Char.ofNat 0x1E

/-- `raw.split(separator)`. -/
def split (raw : String) (separator : Char) : List String :=
  (raw.toList.splitOn separator).map String.ofList

/-- The type of a JSON message; one without a type closes the connection. -/
def messageType (jsonMessage : Dict) : Except Exc MessageType :=
  match jsonMessage.get? "type" with
  | none => .ok .close
  | some value => MessageType.ofValue value

/-- `get_message`: the message a JSON object stands for. -/
def getMessage (jsonMessage : Dict) : Except Exc Message := do
  let messageType ← messageType jsonMessage
  let d := jsonMessage.set "invocation_id" (jsonMessage.get "invocationId")
  let d := d.set "headers" (d.get "headers")
  let d := d.set "error" (d.get "error")
  let d := d.set "result" (d.get "result")
  match messageType with
  | .invocation =>
      return .newInvocation (d.get "invocation_id") (d.get "headers") (← d.getItem "target")
        (← d.getItem "arguments")
  | .streamItem =>
      return .newStreamItem (← d.getItem "invocation_id") (d.get "headers") (← d.getItem "item")
  | .completion =>
      return .newCompletion (← d.getItem "invocation_id") (d.get "headers") (d.get "result")
        (d.get "error")
  | .streamInvocation =>
      return .newStreamInvocation (← d.getItem "invocation_id") (d.get "headers")
        (← d.getItem "target") (← d.getItem "arguments")
  | .cancelInvocation =>
      return .newCancelInvocation (← d.getItem "invocation_id") (d.get "headers")
  | .ping => return .ping
  | .close => return .close (d.get "error")
  | .invocationBindingFailure =>
      throw (.valueError "unknown message type MessageType.INVOCATION_BINDING_FAILURE")

/-- What is no message raises a `ValueError` or a `KeyError`. -/
theorem getMessage_exception (jsonMessage : Dict) : ExceptionsOnly (getMessage jsonMessage) := by
  have htype : ExceptionsOnly (messageType jsonMessage) := by
    unfold messageType MessageType.ofValue
    split
    · exact .ok _
    · split
      · exact .ok _
      · exact .error rfl
  have hitem : ∀ (d : Dict) (key : String), ExceptionsOnly (d.getItem key) := by
    intro d key
    unfold Dict.getItem
    split
    · exact .ok _
    · exact .error rfl
  refine .bind htype fun messageType => ?_
  cases messageType with
  | invocation => exact .bind (hitem _ _) fun _ => .bind (hitem _ _) fun _ => .ok _
  | streamItem => exact .bind (hitem _ _) fun _ => .bind (hitem _ _) fun _ => .ok _
  | completion => exact .bind (hitem _ _) fun _ => .ok _
  | streamInvocation =>
      exact .bind (hitem _ _) fun _ => .bind (hitem _ _) fun _ => .bind (hitem _ _) fun _ => .ok _
  | cancelInvocation => exact .bind (hitem _ _) fun _ => .ok _
  | ping => exact .ok _
  | close => exact .ok _
  | invocationBindingFailure => exact .error rfl

/-- `HandshakeResponseMessage(data.get("error", None))`. -/
def handshakeResponse (data : Value) : Except Exc HandshakeResponseMessage :=
  match data with
  | .dict entries => .ok ⟨Dict.get entries "error"⟩
  | _ => .error .attributeError

/-- `decode_handshake`: the first record is the response, the records behind it
are messages. -/
def decodeHandshake (json : PyJson) (parseMessages : String → Except Exc (List Message))
    (rawMessage : String) : Except Exc (HandshakeResponseMessage × List Message) := do
  let messages := (split rawMessage recordSeparator).filter fun record => record != ""
  let first ←
    match messages with
    | [] => throw .indexError
    | record :: _ => pure record
  let data ← json.loads first
  let idx := rawMessage.toList.idxOf recordSeparator
  if rawMessage.toList.length ≤ idx then
    throw (.valueError "substring not found")
  let response ← handshakeResponse data
  if messages.length > 1 then
    return (response, ← parseMessages (String.ofList (rawMessage.toList.drop (idx + 1))))
  else
    return (response, [])

theorem decodeHandshake_exception {json : PyJson}
    {parseMessages : String → Except Exc (List Message)}
    (hparse : ∀ raw, ExceptionsOnly (parseMessages raw)) (raw : String) :
    ExceptionsOnly (decodeHandshake json parseMessages raw) := by
  have hresponse : ∀ data, ExceptionsOnly (handshakeResponse data) := by
    intro data
    unfold handshakeResponse
    split
    · exact .ok _
    · exact .error rfl
  unfold decodeHandshake
  dsimp only
  split
  · exact .error rfl
  · refine .bind (.ok _) fun first => .bind (fun _ h => json.loads_exception h) fun data => ?_
    split
    · exact .error rfl
    · refine .bind (hresponse _) fun _ => ?_
      split
      · exact .bind (hparse _) fun _ => .ok _
      · exact .ok _

end BaseHubProtocol

end GeventSignalR
