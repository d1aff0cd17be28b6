import GeventSignalR.Protocol.Json
import GeventSignalR.Python.JsonText

/-!
# Batches of JSON messages

What `get_message` builds can be written and read back, in batches of any length.

* `PyJson.Documented` is what is assumed of Python's `json` module.
* `JsonMessage` lists the messages `get_message` builds from JSON values.
* `getMessage_default` is the round trip of one message below the text.
* `parseMessages_encode` is the round trip of a batch.
-/

namespace GeventSignalR

/-- What is assumed of Python's `json`: `loads` inverts `dumps` on JSON values
without NaN, `dumps` escapes every control character, and the empty text is no
document. -/
structure PyJson.Documented (json : PyJson) : Prop where
  loads_dumps : ∀ value : Value, value.IsJson →
    ∃ text, json.dumps value = .ok text ∧ json.loads text = .ok value ∧
      ∀ c ∈ text.toList, 0x20 ≤ c.toNat
  loads_empty : ∀ value, json.loads "" ≠ .ok value

namespace JsonText

/-- The module of this development as a `json` module. -/
def python : PyJson where
  dumps := dumps
  dumps_json := fun h =>
    let ⟨text, htext, _⟩ := loads_dumps h
    ⟨text, htext⟩
  dumps_error := fun h => dumps_error h ▸ rfl
  dumps_exception := fun h => dumps_error h ▸ rfl
  loads := loads
  loads_exception := fun h => loads_exception _ _ h
  loadsBytes := fun bs =>
    match String.fromUTF8? ⟨bs.toArray⟩ with
    | some s => loads s
    | none => .error (.valueError "invalid start byte")

theorem python_documented : python.Documented where
  loads_dumps := fun _ h => loads_dumps h
  loads_empty := fun value h => by simp [python, loads_empty] at h

end JsonText

namespace MyEncoder

/-- A JSON value is serialised as it is, whatever its strings and keys are. -/
theorem plain_of_isJson {value : Value} (h : value.IsJson) : plain value = .ok value := by
  induction h with
  | none => rfl
  | bool b => rfl
  | int i => rfl
  | float bits _ => rfl
  | str s => rfl
  | list items _ ih =>
      have hitems : plainItems items = .ok items := by
        induction items with
        | nil => rfl
        | cons item items ih' =>
            rw [plainItems, ih item (by simp), ih' (fun v hv => by simp_all)
              fun v hv => ih v (by simp [hv])]
            rfl
      rw [plain, hitems]
      rfl
  | dict keys values _ _ _ ih =>
      have hentries : ∀ entries : Dict, (∀ entry ∈ entries, plain entry.2 = .ok entry.2) →
          plainEntries entries = .ok entries := by
        intro entries hall
        induction entries with
        | nil => rfl
        | cons entry entries ih' =>
            rw [plainEntries, hall entry (by simp), ih' fun other hother =>
              hall other (by simp [hother])]
            rfl
      rw [plain, hentries _ fun entry hentry => ih entry.2 (List.of_mem_zip hentry).2]
      rfl

end MyEncoder

/-! ## The messages of `get_message` -/

/-- Every value of the dictionary is a JSON value. -/
def Dict.AllJson (d : Dict) : Prop :=
  ∀ entry ∈ d, entry.2.IsJson

namespace Dict

theorem AllJson.get {d : Dict} (h : d.AllJson) (key : String) : (d.get key).IsJson := by
  unfold Dict.get
  cases hget : d.get? key with
  | none => exact .none
  | some value =>
      obtain ⟨k, hk⟩ := mem_of_get? hget
      exact h (k, value) hk

theorem AllJson.getItem {d : Dict} (h : d.AllJson) {key : String} {value : Value}
    (hget : d.getItem key = .ok value) : value.IsJson := by
  unfold Dict.getItem at hget
  cases hsome : d.get? key with
  | none => simp [hsome] at hget
  | some found =>
      simp only [hsome, Except.ok.injEq] at hget
      subst hget
      obtain ⟨k, hk⟩ := mem_of_get? hsome
      exact h (k, found) hk

theorem AllJson.set {d : Dict} (h : d.AllJson) (key : String) {value : Value}
    (hvalue : value.IsJson) : (d.set key value).AllJson := by
  intro entry hentry
  rcases mem_set hentry with rfl | ⟨k, hk⟩
  · exact hvalue
  · exact h (k, entry.2) hk

end Dict

/-- The dictionary of a JSON object. -/
theorem Value.IsJson.allJson {d : Dict} (h : Value.IsJson (.dict d)) : d.AllJson := by
  cases h with
  | dict keys values _ _ hvalues =>
      intro entry hentry
      exact hvalues entry.2 (List.of_mem_zip hentry).2

/-- A message is in the image of `get_message` on JSON objects. -/
def Decoded (message : Message) : Prop :=
  ∃ d : Dict, Value.IsJson (.dict d) ∧ BaseHubProtocol.getMessage d = .ok message

/-- Headers as a constructor stores them. -/
structure JsonHeaders (headers : Value) : Prop where
  isJson : headers.IsJson
  present : headers.isNone = false

/-- The messages `get_message` builds, class by class. -/
inductive JsonMessage : Message → Prop where
  | invocation {headers invocationId target arguments : Value} (hheaders : JsonHeaders headers)
      (hid : invocationId.IsJson) (htarget : target.IsJson) (harguments : arguments.IsJson) :
      JsonMessage (.invocation headers invocationId target arguments)
  | streamItem {headers invocationId item : Value} (hheaders : JsonHeaders headers)
      (hid : invocationId.IsJson) (hitem : item.IsJson) :
      JsonMessage (.streamItem headers invocationId item)
  | completion {headers invocationId result error : Value} (hheaders : JsonHeaders headers)
      (hid : invocationId.IsJson) (hresult : result.IsJson) (herror : error.IsJson) :
      JsonMessage (.completion headers invocationId result error)
  | streamInvocation {headers invocationId target arguments : Value}
      (hheaders : JsonHeaders headers) (hid : invocationId.IsJson) (htarget : target.IsJson)
      (harguments : arguments.IsJson) :
      JsonMessage (.streamInvocation headers invocationId target arguments (.list []))
  | cancelInvocation {headers invocationId : Value} (hheaders : JsonHeaders headers)
      (hid : invocationId.IsJson) : JsonMessage (.cancelInvocation headers invocationId)
  | ping : JsonMessage .ping
  | close {error : Value} (herror : error.IsJson) : JsonMessage (.close error)

theorem jsonHeaders_headersOrEmpty {headers : Value} (h : headers.IsJson) :
    JsonHeaders (Message.headersOrEmpty headers) := by
  unfold Message.headersOrEmpty
  split
  · exact ⟨.dict [] [] rfl (by simp) (by simp), rfl⟩
  · exact ⟨h, by simp_all⟩

/-- What a sequence of fallible steps returned came out of its first step. -/
theorem Except.of_bind_eq_ok {ε α β : Type} {x : Except ε α} {f : α → Except ε β} {b : β}
    (h : x >>= f = .ok b) : ∃ a, x = .ok a ∧ f a = .ok b := by
  cases x with
  | error e => cases h
  | ok a => exact ⟨a, rfl, h⟩

namespace BaseHubProtocol

theorem jsonMessage_of_getMessage {d : Dict} {message : Message} (hd : d.AllJson)
    (h : getMessage d = .ok message) : JsonMessage message := by
  unfold getMessage at h
  obtain ⟨messageType, -, h⟩ := Except.of_bind_eq_ok h
  -- the dictionary with the four assigned keys
  have hd₁ := hd.set "invocation_id" (hd.get "invocationId")
  have hd₂ := hd₁.set "headers" (hd₁.get "headers")
  have hd₃ := hd₂.set "error" (hd₂.get "error")
  have hd₄ := hd₃.set "result" (hd₃.get "result")
  have hheaders := jsonHeaders_headersOrEmpty (hd₄.get "headers")
  cases messageType with
  | invocation =>
      obtain ⟨target, htarget, h⟩ := Except.of_bind_eq_ok h
      obtain ⟨arguments, harguments, h⟩ := Except.of_bind_eq_ok h
      cases h
      exact .invocation hheaders (hd₄.get _) (hd₄.getItem htarget) (hd₄.getItem harguments)
  | streamItem =>
      obtain ⟨invocationId, hid, h⟩ := Except.of_bind_eq_ok h
      obtain ⟨item, hitem, h⟩ := Except.of_bind_eq_ok h
      cases h
      exact .streamItem hheaders (hd₄.getItem hid) (hd₄.getItem hitem)
  | completion =>
      obtain ⟨invocationId, hid, h⟩ := Except.of_bind_eq_ok h
      cases h
      exact .completion hheaders (hd₄.getItem hid) (hd₄.get _) (hd₄.get _)
  | streamInvocation =>
      obtain ⟨invocationId, hid, h⟩ := Except.of_bind_eq_ok h
      obtain ⟨target, htarget, h⟩ := Except.of_bind_eq_ok h
      obtain ⟨arguments, harguments, h⟩ := Except.of_bind_eq_ok h
      cases h
      exact .streamInvocation hheaders (hd₄.getItem hid) (hd₄.getItem htarget)
        (hd₄.getItem harguments)
  | cancelInvocation =>
      obtain ⟨invocationId, hid, h⟩ := Except.of_bind_eq_ok h
      cases h
      exact .cancelInvocation hheaders (hd₄.getItem hid)
  | ping =>
      cases h
      exact .ping
  | close =>
      cases h
      exact .close (hd₄.get _)
  | invocationBindingFailure => cases h

end BaseHubProtocol

theorem Decoded.jsonMessage {message : Message} (h : Decoded message) : JsonMessage message := by
  obtain ⟨d, hd, hmessage⟩ := h
  exact BaseHubProtocol.jsonMessage_of_getMessage hd.allJson hmessage

/-! ## One message -/

theorem JsonHeaders.stored {headers : Value} (h : JsonHeaders headers) :
    Message.headersOrEmpty headers = headers := by
  simp [Message.headersOrEmpty, h.present]

namespace MyEncoder

/-- The object that is written for a message. -/
def wireDict : Message → Dict
  | .invocation headers invocationId target arguments =>
      [(.str "type", .int MessageType.invocation.value), (.str "headers", headers),
        (.str "target", target), (.str "arguments", arguments),
        (.str "invocationId", invocationId)]
  | .invocationClientStream headers target arguments streamIds =>
      [(.str "type", .int MessageType.invocation.value), (.str "headers", headers),
        (.str "target", target), (.str "arguments", arguments), (.str "streamIds", streamIds)]
  | .streamItem headers invocationId item =>
      [(.str "type", .int MessageType.streamItem.value), (.str "headers", headers),
        (.str "item", item), (.str "invocationId", invocationId)]
  | .completion headers invocationId result error =>
      [(.str "type", .int MessageType.completion.value), (.str "headers", headers),
        (.str "result", result), (.str "error", error), (.str "invocationId", invocationId)]
  | .completionClientStream headers invocationId =>
      [(.str "type", .int MessageType.completion.value), (.str "headers", headers),
        (.str "invocationId", invocationId)]
  | .streamInvocation headers invocationId target arguments streamIds =>
      [(.str "type", .int MessageType.streamInvocation.value), (.str "headers", headers),
        (.str "target", target), (.str "arguments", arguments),
        (.str "invocationId", invocationId), (.str "streamIds", streamIds)]
  | .cancelInvocation headers invocationId =>
      [(.str "type", .int MessageType.cancelInvocation.value), (.str "headers", headers),
        (.str "invocationId", invocationId)]
  | .ping => [(.str "type", .int MessageType.ping.value)]
  | .close error => [(.str "type", .int MessageType.close.value), (.str "error", error)]

theorem default_dict (message : Message) : default message.dict = wireDict message := by
  cases message <;> rfl

/-- Encoding renames the attributes of the object itself; the object of a message
that was encoded before is not changed again. -/
theorem default_wireDict (message : Message) : default (wireDict message) = wireDict message := by
  cases message <;> rfl

/-- `get_message` in terms of the keys of the JSON object. -/
theorem getMessage_eq (d : Dict) :
    BaseHubProtocol.getMessage d = (do
      match ← BaseHubProtocol.messageType d with
      | .invocation =>
          return .newInvocation (d.get "invocationId") (d.get "headers") (← d.getItem "target")
            (← d.getItem "arguments")
      | .streamItem =>
          return .newStreamItem (d.get "invocationId") (d.get "headers") (← d.getItem "item")
      | .completion =>
          return .newCompletion (d.get "invocationId") (d.get "headers") (d.get "result")
            (d.get "error")
      | .streamInvocation =>
          return .newStreamInvocation (d.get "invocationId") (d.get "headers")
            (← d.getItem "target") (← d.getItem "arguments")
      | .cancelInvocation =>
          return .newCancelInvocation (d.get "invocationId") (d.get "headers")
      | .ping => return .ping
      | .close => return .close (d.get "error")
      | .invocationBindingFailure =>
          throw (.valueError "unknown message type MessageType.INVOCATION_BINDING_FAILURE")) := by
  unfold BaseHubProtocol.getMessage
  congr 1
  funext messageType
  cases messageType <;>
    simp [Dict.get, Dict.getItem, Dict.get?_set_self, Dict.get?_set_ne, bind, Except.bind]

/-- What is written for a message is read back as the message. -/
theorem getMessage_wireDict {message : Message} (h : JsonMessage message) :
    BaseHubProtocol.getMessage (wireDict message) = .ok message := by
  rw [getMessage_eq]
  cases h with
  | invocation hheaders =>
      simp [wireDict, BaseHubProtocol.messageType, Dict.get, Dict.getItem,
        Message.newInvocation, hheaders.stored, bind, Except.bind, pure, Except.pure]
  | streamItem hheaders =>
      simp [wireDict, BaseHubProtocol.messageType, Dict.get, Dict.getItem,
        Message.newStreamItem, hheaders.stored, bind, Except.bind, pure, Except.pure]
  | completion hheaders =>
      simp [wireDict, BaseHubProtocol.messageType, Dict.get,
        Message.newCompletion, hheaders.stored, bind, Except.bind, pure, Except.pure]
  | streamInvocation hheaders =>
      simp [wireDict, BaseHubProtocol.messageType, Dict.get, Dict.getItem,
        Message.newStreamInvocation, hheaders.stored, bind, Except.bind, pure, Except.pure]
  | cancelInvocation hheaders =>
      simp [wireDict, BaseHubProtocol.messageType, Dict.get,
        Message.newCancelInvocation, hheaders.stored, bind, Except.bind, pure, Except.pure]
  | ping => simp [wireDict, BaseHubProtocol.messageType, bind, Except.bind, pure, Except.pure]
  | close =>
      simp [wireDict, BaseHubProtocol.messageType, Dict.get, bind, Except.bind, pure, Except.pure]

/-- A dictionary of the given keys and values. -/
theorem isJson_dict (keys : List String) (values : List Value)
    (hlength : keys.length = values.length) (hkeys : keys.Nodup)
    (hvalues : values.Forall Value.IsJson) :
    Value.IsJson (.dict ((keys.map Value.str).zip values)) :=
  .dict keys values hlength hkeys (List.forall_iff_forall_mem.mp hvalues)

/-- Both the attributes of a message and the object written for it are JSON. -/
theorem isJson_dicts {message : Message} (h : JsonMessage message) :
    Value.IsJson (.dict message.dict) ∧ Value.IsJson (.dict (wireDict message)) := by
  cases h with
  | invocation hheaders hid htarget harguments =>
      exact ⟨isJson_dict ["type", "headers", "invocation_id", "target", "arguments"]
          [_, _, _, _, _] rfl (by decide) ⟨.int _, hheaders.isJson, hid, htarget, harguments⟩,
        isJson_dict ["type", "headers", "target", "arguments", "invocationId"]
          [_, _, _, _, _] rfl (by decide) ⟨.int _, hheaders.isJson, htarget, harguments, hid⟩⟩
  | streamItem hheaders hid hitem =>
      exact ⟨isJson_dict ["type", "headers", "invocation_id", "item"]
          [_, _, _, _] rfl (by decide) ⟨.int _, hheaders.isJson, hid, hitem⟩,
        isJson_dict ["type", "headers", "item", "invocationId"]
          [_, _, _, _] rfl (by decide) ⟨.int _, hheaders.isJson, hitem, hid⟩⟩
  | completion hheaders hid hresult herror =>
      exact ⟨isJson_dict ["type", "headers", "invocation_id", "result", "error"]
          [_, _, _, _, _] rfl (by decide) ⟨.int _, hheaders.isJson, hid, hresult, herror⟩,
        isJson_dict ["type", "headers", "result", "error", "invocationId"]
          [_, _, _, _, _] rfl (by decide) ⟨.int _, hheaders.isJson, hresult, herror, hid⟩⟩
  | streamInvocation hheaders hid htarget harguments =>
      have hstreamIds : Value.IsJson (.list []) := .list [] (by simp)
      exact ⟨isJson_dict
          ["type", "headers", "invocation_id", "target", "arguments", "stream_ids"]
          [_, _, _, _, _, _] rfl (by decide)
          ⟨.int _, hheaders.isJson, hid, htarget, harguments, hstreamIds⟩,
        isJson_dict ["type", "headers", "target", "arguments", "invocationId", "streamIds"]
          [_, _, _, _, _, _] rfl (by decide)
          ⟨.int _, hheaders.isJson, htarget, harguments, hid, hstreamIds⟩⟩
  | cancelInvocation hheaders hid =>
      exact ⟨isJson_dict ["type", "headers", "invocation_id"] [_, _, _] rfl (by decide)
          ⟨.int _, hheaders.isJson, hid⟩,
        isJson_dict ["type", "headers", "invocationId"] [_, _, _] rfl (by decide)
          ⟨.int _, hheaders.isJson, hid⟩⟩
  | ping =>
      exact ⟨isJson_dict ["type"] [_] rfl (by decide) (.int _),
        isJson_dict ["type"] [_] rfl (by decide) (.int _)⟩
  | close herror =>
      exact ⟨isJson_dict ["type", "error"] [_, _] rfl (by decide) ⟨.int _, herror⟩,
        isJson_dict ["type", "error"] [_, _] rfl (by decide) ⟨.int _, herror⟩⟩

/-- The entries of a JSON object are serialised as they are. -/
theorem plainEntries_of_isJson {d : Dict} (h : Value.IsJson (.dict d)) :
    plainEntries d = .ok d := by
  have hplain := plain_of_isJson h
  rw [plain] at hplain
  cases hentries : plainEntries d with
  | error e => simp [hentries, Except.map] at hplain
  | ok entries =>
      simp only [hentries, Except.map, Except.ok.injEq, Value.dict.injEq] at hplain
      rw [hplain]

end MyEncoder

/-! ## Batches -/

namespace JsonHubProtocol

open BaseHubProtocol MyEncoder

variable {json : PyJson}

/-- A text that is one record of the message: it is read back as the message and
does not hold the separator. -/
structure IsRecord (json : PyJson) (message : Message) (record : String) : Prop where
  loads : ∃ entries : Dict, json.loads record = .ok (.dict entries) ∧ 0 < entries.length ∧
    getMessage entries = .ok message
  nonempty : record ≠ ""
  separator : recordSeparator ∉ record.toList

/-- What `encode` writes for a message, whether or not its object was encoded before. -/
theorem encode_of_decoded (hjson : json.Documented) {message : Message}
    (h : Decoded message) :
    ∃ record, IsRecord json message record ∧
      encodeMessage json message = .ok (record ++ String.singleton recordSeparator) ∧
      encodeDict json (wireDict message) = .ok (record ++ String.singleton recordSeparator) := by
  have hmessage := h.jsonMessage
  obtain ⟨hdict, hwire⟩ := isJson_dicts hmessage
  obtain ⟨record, hdumps, hloads, hprintable⟩ := hjson.loads_dumps _ hwire
  refine ⟨record, ⟨⟨_, hloads, ?_, getMessage_wireDict hmessage⟩, ?_, ?_⟩, ?_, ?_⟩
  · cases message <;> exact Nat.succ_pos _
  · rintro rfl
    exact hjson.loads_empty _ hloads
  · intro hmem
    exact absurd (hprintable _ hmem) (by decide)
  · simp only [encodeMessage, encodeDict, plainEntries_of_isJson hdict, default_dict, hdumps,
      bind, Except.bind, pure, Except.pure]
  · simp only [encodeDict, plainEntries_of_isJson hwire, default_wireDict, hdumps, bind,
      Except.bind, pure, Except.pure]

/-- Records without a separator, each followed by one, are what a split returns. -/
theorem split_join (records : List String)
    (h : ∀ record ∈ records, recordSeparator ∉ record.toList) :
    split (String.join (records.map (· ++ String.singleton recordSeparator))) recordSeparator =
      records ++ [""] := by
  unfold split
  rw [String.toList_join]
  induction records with
  | nil => rfl
  | cons record records ih =>
      have hrest := ih fun other hother => h other (by simp [hother])
      simp only [List.map_cons, List.flatMap_cons, String.toList_append, String.toList_singleton,
        List.append_assoc, List.singleton_append]
      rw [List.splitOn_append_cons_self_of_not_mem (h record (by simp)), List.map_cons, hrest,
        String.ofList_toList, List.cons_append]

theorem records_join {records : List String}
    (h : ∀ record ∈ records, record ≠ "" ∧ recordSeparator ∉ record.toList) :
    JsonHubProtocol.records
      (String.join (records.map (· ++ String.singleton recordSeparator))) = records := by
  unfold JsonHubProtocol.records
  rw [split_join records fun record hrecord => (h record hrecord).2]
  have hkeep : ∀ record ∈ records,
      (record != "" && record != String.singleton recordSeparator) = true := by
    intro record hrecord
    obtain ⟨hne, hseparator⟩ := h record hrecord
    have hsingle : record ≠ String.singleton recordSeparator := by
      rintro rfl
      exact hseparator (by simp)
    simp [hne, hsingle]
  rw [List.filter_append, List.filter_eq_self.mpr hkeep]
  simp

theorem parseRecords_records {messages : List Message} {records : List String}
    (h : List.Forall₂ (IsRecord json) messages records) :
    parseRecords json records = .ok messages := by
  induction h with
  | nil => rfl
  | cons hrecord _ ih =>
      obtain ⟨entries, hloads, hpos, hmessage⟩ := hrecord.loads
      simp only [parseRecords, hloads, bind, Except.bind, gt_iff_lt, if_pos hpos, hmessage, ih,
        pure, Except.pure]

/-- The texts of a batch are records of its messages, each followed by a separator. -/
theorem mapM_encode (hjson : json.Documented) {messages : List Message}
    (h : ∀ message ∈ messages, Decoded message) :
    ∃ records, List.Forall₂ (IsRecord json) messages records ∧
      messages.mapM (encodeMessage json) =
        .ok (records.map (· ++ String.singleton recordSeparator)) ∧
      messages.mapM (fun message => encodeDict json (wireDict message)) =
        .ok (records.map (· ++ String.singleton recordSeparator)) := by
  induction messages with
  | nil => exact ⟨[], .nil, rfl, rfl⟩
  | cons message messages ih =>
      obtain ⟨record, hrecord, hfirst, hagain⟩ := encode_of_decoded hjson (h message (by simp))
      obtain ⟨records, hrecords, hrest, hrestAgain⟩ :=
        ih fun other hother => h other (by simp [hother])
      refine ⟨record :: records, .cons hrecord hrecords, ?_, ?_⟩
      · rw [List.mapM_cons, hfirst, hrest]
        rfl
      · rw [List.mapM_cons, hagain, hrestAgain]
        rfl

theorem forall_record {messages : List Message} {records : List String}
    (h : List.Forall₂ (IsRecord json) messages records) :
    ∀ record ∈ records, record ≠ "" ∧ recordSeparator ∉ record.toList := by
  induction h with
  | nil => simp
  | cons hrecord _ ih =>
      rintro other (_ | ⟨_, hother⟩)
      · exact ⟨hrecord.nonempty, hrecord.separator⟩
      · exact ih other hother

/-- Every batch of messages that `get_message` can build is encoded, message by
message, and the concatenated texts are read back as the batch.  `encode` renames
the attributes of the object it is given; the texts are the same when the objects
were encoded before. -/
theorem parseMessages_encode (hjson : json.Documented) (messages : List Message)
    (h : ∀ message ∈ messages, Decoded message) :
    ∃ texts : List String,
      messages.mapM (encodeMessage json) = .ok texts ∧
      messages.mapM (fun message => encodeDict json (MyEncoder.default message.dict)) =
        .ok texts ∧
      parseMessages json (String.join texts) = .ok messages := by
  obtain ⟨records, hrecords, hfirst, hagain⟩ := mapM_encode hjson h
  refine ⟨_, hfirst, by simpa only [default_dict] using hagain, ?_⟩
  rw [parseMessages, records_join (forall_record hrecords)]
  exact parseRecords_records hrecords

/-! ## Frames -/

/-- The text of some records: each is followed by the separator. -/
def frame (records : List String) : String :=
  String.join (records.map (· ++ String.singleton recordSeparator))

/-- A frame of messages. -/
theorem parseMessages_frame {messages : List Message} {records : List String}
    (h : List.Forall₂ (IsRecord json) messages records) :
    parseMessages json (frame records) = .ok messages := by
  rw [parseMessages, frame, records_join (forall_record h)]
  exact parseRecords_records h

/-- A frame that begins with a handshake response. -/
theorem decodeHandshake_frame {record : String} {entries : Dict} {messages : List Message}
    {records : List String} (hloads : json.loads record = .ok (.dict entries))
    (hnonempty : record ≠ "") (hseparator : recordSeparator ∉ record.toList)
    (h : List.Forall₂ (IsRecord json) messages records) :
    decodeHandshake json (parseMessages json) (frame (record :: records)) =
      .ok (⟨entries.get "error"⟩, messages) := by
  have hall := forall_record h
  have hfilter : (split (frame (record :: records)) recordSeparator).filter (fun r => r != "") =
      record :: records := by
    rw [frame, split_join, List.filter_append, List.filter_eq_self.mpr]
    · simp
    · rintro other (_ | ⟨_, hother⟩)
      · simpa using hnonempty
      · simpa using (hall other hother).1
    · rintro other (_ | ⟨_, hother⟩)
      · exact hseparator
      · exact (hall other hother).2
  -- the text behind the first separator is the frame of the messages
  have htext : (frame (record :: records)).toList =
      record.toList ++ recordSeparator :: (frame records).toList := by
    simp [frame, String.toList_join]
  have hidx : (frame (record :: records)).toList.idxOf recordSeparator = record.toList.length := by
    rw [htext, List.idxOf_append_of_notMem hseparator]
    simp
  have hbound : ¬(frame (record :: records)).toList.length ≤ record.toList.length := by
    rw [htext]
    simp
  have hdrop : String.ofList ((frame (record :: records)).toList.drop (record.toList.length + 1)) =
      frame records := by
    rw [htext, List.drop_append, List.drop_eq_nil_of_le (Nat.le_succ _), Nat.add_sub_cancel_left]
    exact String.ofList_toList
  have hparse := parseMessages_frame h
  unfold decodeHandshake
  simp only [hfilter, hidx, if_neg hbound, hdrop, hparse, hloads, handshakeResponse, bind,
    Except.bind, pure, Except.pure]
  cases h with
  | nil => rfl
  | cons _ _ => simp

/-- A stream item whose payload looks like a message and holds the separator. -/
def lookalike : Message :=
  .streamItem (.dict []) (.str "1")
    (.dict [(.str "type", .int 3), (.str "invocation_id", .str "\x1e"), (.str "streamIds", .none)])

theorem lookalike_decoded : Decoded lookalike := by
  have hheaders : JsonHeaders (.dict []) := ⟨isJson_dict [] [] rfl (by simp) trivial, rfl⟩
  have hitem : Value.IsJson (.dict [(.str "type", .int 3), (.str "invocation_id", .str "\x1e"),
      (.str "streamIds", .none)]) :=
    isJson_dict ["type", "invocation_id", "streamIds"] [_, _, _] rfl (by decide)
      ⟨.int 3, .str _, .none⟩
  have hmessage : JsonMessage lookalike := .streamItem hheaders (.str "1") hitem
  exact ⟨_, (isJson_dicts hmessage).2, getMessage_wireDict hmessage⟩

theorem parseMessages_lookalike :
    ∃ texts : List String,
      [lookalike, lookalike].mapM (encodeMessage JsonText.python) = .ok texts ∧
      [lookalike, lookalike].mapM (fun message =>
        encodeDict JsonText.python (MyEncoder.default message.dict)) = .ok texts ∧
      parseMessages JsonText.python (String.join texts) = .ok [lookalike, lookalike] :=
  parseMessages_encode JsonText.python_documented [lookalike, lookalike] (by
    simpa using lookalike_decoded)

end JsonHubProtocol

end GeventSignalR
