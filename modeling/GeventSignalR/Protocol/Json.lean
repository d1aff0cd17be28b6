import GeventSignalR.Protocol.Base

/-!
# The JSON protocol

`JsonHubProtocol` and its encoder.  A record is a JSON object followed by the
record separator.

* `MyEncoder.default` turns a message, or any object met below it, into the
  dictionary that is serialised in its place.
* `parseMessages` splits a text into records and decodes each of them.
-/

namespace GeventSignalR

namespace MyEncoder

/-- `data[new] = data[old]; del data[old]`, where `old` is present. -/
def rename (data : Dict) (old new : String) : Dict :=
  match data.get? old with
  | some value => (data.set new value).erase old
  | none => data

/-- `default` on the `__dict__` of an object. -/
def default (data : Dict) : Dict :=
  rename (rename data "invocation_id" "invocationId") "stream_ids" "streamIds"

mutual

/-- The plain JSON value that is serialised for a value: every object gives way to
what `default` returns.  An object without `__dict__` raises. -/
def plain : Value → Except Exc Value
  | .bytes _ => .error .attributeError
  | .list items => (plainItems items).map .list
  | .tuple items => (plainItems items).map .list
  | .dict entries => (plainEntries entries).map .dict
  | .object attributes => (plainAttributes attributes).map fun data => .dict (default data)
  | value => .ok value

def plainItems : List Value → Except Exc (List Value)
  | [] => .ok []
  | item :: items =>
      match plain item with
      | .error e => .error e
      | .ok item => (plainItems items).map (item :: ·)

def plainEntries : List (Value × Value) → Except Exc Dict
  | [] => .ok []
  | (key, value) :: entries =>
      match plain value with
      | .error e => .error e
      | .ok value => (plainEntries entries).map ((key, value) :: ·)

def plainAttributes : List (String × Value) → Except Exc Dict
  | [] => .ok []
  | (name, value) :: attributes =>
      match plain value with
      | .error e => .error e
      | .ok value => (plainAttributes attributes).map ((.str name, value) :: ·)

end

mutual

/-- The objects without `__dict__` are the only ones that `default` cannot handle. -/
theorem plain_error {value : Value} {e : Exc} (h : plain value = .error e) :
    e = .attributeError := by
  cases value with
  | bytes bs =>
      simp only [plain, Except.error.injEq] at h
      exact h.symm
  | list items => exact plainItems_error (map_eq_error h)
  | tuple items => exact plainItems_error (map_eq_error h)
  | dict entries => exact plainEntries_error (map_eq_error h)
  | object attributes => exact plainAttributes_error (map_eq_error h)
  | _ => simp [plain] at h

theorem plainItems_error {items : List Value} {e : Exc} (h : plainItems items = .error e) :
    e = .attributeError := by
  cases items with
  | nil => simp [plainItems] at h
  | cons item items =>
      simp only [plainItems] at h
      split at h
      · rename_i hitem
        cases h
        exact plain_error hitem
      · exact plainItems_error (map_eq_error h)

theorem plainEntries_error {entries : List (Value × Value)} {e : Exc}
    (h : plainEntries entries = .error e) : e = .attributeError := by
  rcases entries with _ | ⟨⟨key, value⟩, entries⟩
  · simp [plainEntries] at h
  · simp only [plainEntries] at h
    split at h
    · rename_i hvalue
      cases h
      exact plain_error hvalue
    · exact plainEntries_error (map_eq_error h)

theorem plainAttributes_error {attributes : List (String × Value)} {e : Exc}
    (h : plainAttributes attributes = .error e) : e = .attributeError := by
  rcases attributes with _ | ⟨⟨name, value⟩, attributes⟩
  · simp [plainAttributes] at h
  · simp only [plainAttributes] at h
    split at h
    · rename_i hvalue
      cases h
      exact plain_error hvalue
    · exact plainAttributes_error (map_eq_error h)

end

end MyEncoder

namespace JsonHubProtocol

open BaseHubProtocol

/-- `encode` of an object with the given `__dict__`. -/
def encodeDict (json : PyJson) (data : Dict) : Except Exc String := do
  let text ← json.dumps (.dict (MyEncoder.default (← MyEncoder.plainEntries data)))
  return text ++ String.singleton recordSeparator

/-- `encode` of a hub message. -/
def encodeMessage (json : PyJson) (message : Message) : Except Exc String :=
  encodeDict json message.dict

/-- `encode`. -/
def encode (json : PyJson) : Outgoing → Except Exc Raw
  | .handshake request =>
      (encodeDict json
        [(.str "protocol", .str request.protocol), (.str "version", .int request.version)]).map
        .text
  | .hub message => (encodeMessage json message).map .text

/-- The records of a text that are not empty. -/
def records (raw : String) : List String :=
  (split raw recordSeparator).filter fun record =>
    record != "" && record != String.singleton recordSeparator

/-- The loop of `parse_messages` over the records. -/
def parseRecords (json : PyJson) : List String → Except Exc (List Message)
  | [] => .ok []
  | record :: rest => do
      match ← json.loads record with
      | .dict entries =>
          if entries.length > 0 then
            let message ← getMessage entries
            return message :: (← parseRecords json rest)
          else
            parseRecords json rest
      | _ => throw .attributeError

/-- `parse_messages`. -/
def parseMessages (json : PyJson) (raw : String) : Except Exc (List Message) :=
  parseRecords json (records raw)

theorem encodeDict_exception {json : PyJson} (data : Dict) :
    ExceptionsOnly (encodeDict json data) := by
  have hentries : ExceptionsOnly (MyEncoder.plainEntries data) := by
    intro e h
    cases MyEncoder.plainEntries_error h
    rfl
  exact .bind hentries fun _ => .bind (fun _ h => json.dumps_exception h) fun _ => .ok _

theorem encode_exception {json : PyJson} (message : Outgoing) :
    ExceptionsOnly (encode json message) := by
  cases message with
  | handshake request => exact (encodeDict_exception _).map
  | hub message => exact (encodeDict_exception _).map

theorem parseMessages_exception {json : PyJson} (raw : String) :
    ExceptionsOnly (parseMessages json raw) := by
  unfold parseMessages
  induction records raw with
  | nil => exact .ok _
  | cons record rest ih =>
      refine .bind (fun _ h => json.loads_exception h) fun data => ?_
      cases data with
      | dict entries =>
          dsimp only
          split
          · exact .bind (getMessage_exception _) fun _ => .bind ih fun _ => .ok _
          · exact ih
      | _ => exact .error rfl

theorem encodeDict_error {json : PyJson} {data : Dict} {e : Exc}
    (h : encodeDict json data = .error e) : e.isConnectionLost = false := by
  rcases bind_eq_error h with h | ⟨entries, h⟩
  · cases MyEncoder.plainEntries_error h
    rfl
  rcases bind_eq_error h with h | ⟨_, h⟩
  · exact json.dumps_error h
  · cases h

theorem encode_error {json : PyJson} {message : Outgoing} {e : Exc}
    (h : encode json message = .error e) : e.isConnectionLost = false := by
  cases message with
  | handshake request => exact encodeDict_error (map_eq_error h)
  | hub message => exact encodeDict_error (map_eq_error h)

/-- JSON that `default` leaves as it is can be encoded. -/
theorem encodeDict_json (json : PyJson) {data : Dict} (hdata : Value.IsJson (.dict data))
    (hplain : MyEncoder.plainEntries data = .ok data) (hdefault : MyEncoder.default data = data) :
    ∃ text, encodeDict json data = .ok text := by
  obtain ⟨text, htext⟩ := json.dumps_json hdata
  refine ⟨text ++ String.singleton recordSeparator, ?_⟩
  simp [encodeDict, hplain, hdefault, htext, bind, Except.bind, pure, Except.pure]

/-- The attributes of a handshake request are JSON. -/
theorem encode_handshake (json : PyJson) (request : HandshakeRequestMessage) :
    ∃ raw, encode json (.handshake request) = .ok raw := by
  have hdata : Value.IsJson (.dict
      [(.str "protocol", .str request.protocol), (.str "version", .int request.version)]) :=
    .dict ["protocol", "version"] [.str request.protocol, .int request.version] rfl (by decide) <| by
      intro value hvalue
      simp only [List.mem_cons, List.not_mem_nil, or_false] at hvalue
      rcases hvalue with rfl | rfl
      · exact .str _
      · exact .int _
  obtain ⟨text, htext⟩ := encodeDict_json json hdata rfl rfl
  exact ⟨.text text, by rw [encode, htext]; rfl⟩

/-- So is the type of a ping. -/
theorem encode_ping (json : PyJson) : ∃ raw, encode json (.hub .ping) = .ok raw := by
  have hdata : Value.IsJson (.dict Message.ping.dict) :=
    .dict ["type"] [.int 6] rfl (by decide) <| by
      intro value hvalue
      rw [List.mem_singleton.mp hvalue]
      exact .int 6
  obtain ⟨text, htext⟩ := encodeDict_json json hdata rfl rfl
  exact ⟨.text text, by rw [encode, encodeMessage, htext]; rfl⟩

/-- `JsonHubProtocol()`.  A binary frame reaches `str` methods as bytes. -/
def protocol (json : PyJson) : HubProtocol where
  handshakeMessage := ⟨"json", 1⟩
  encode := encode json
  encode_handshake := encode_handshake json _
  encode_ping := encode_ping json
  encode_error := encode_error
  encode_exception := fun h => encode_exception _ _ h
  parseMessages := fun raw =>
    match raw with
    | .text s => parseMessages json s
    | .binary _ => .error .typeError
  parse_exception := fun {raw} _ h =>
    match raw with
    | .text s => parseMessages_exception s _ h
    | .binary _ => ExceptionsOnly.error rfl _ h
  decodeHandshake := fun raw =>
    match raw with
    | .text s => decodeHandshake json (parseMessages json) s
    | .binary _ => .error .typeError
  decode_exception := fun {raw} _ h =>
    match raw with
    | .text s => decodeHandshake_exception parseMessages_exception s _ h
    | .binary _ => ExceptionsOnly.error rfl _ h

end JsonHubProtocol

end GeventSignalR
