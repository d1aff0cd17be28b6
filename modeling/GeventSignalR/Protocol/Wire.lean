import GeventSignalR.Protocol.JsonRoundTrip

/-!
# What the other side reads

What `parse_messages` makes of a text, and of what `encode` has written for any message, also for
the ones that `get_message` does not build.

* `parseMessages_append`: a text is read record by record, so that it does not matter where a text
  ends and the next one begins.
* `Writable` are the values that JSON can represent once `default` has replaced the objects in them.
* `heard` is the message that is read where a message was written: its objects have become
  dictionaries, its tuples lists, and stream ids are lost.
* `parseMessages_heard`: a batch of any messages with such values is read as what is heard of them.
-/

namespace GeventSignalR

open MyEncoder BaseHubProtocol

/-! ## Texts -/

namespace JsonHubProtocol

variable {json : PyJson}

theorem records_append (before after : String) :
    records (before ++ String.singleton recordSeparator ++ after) =
      records before ++ records after := by
  unfold records split
  rw [String.toList_append, String.toList_append, String.toList_singleton, List.append_assoc,
    List.singleton_append, List.splitOn_append_cons_self, List.map_append, List.filter_append]

/-- What a record adds to the messages: an empty object adds nothing. -/
def readRecord (json : PyJson) (record : String) : Except Exc (List Message) := do
  match ← json.loads record with
  | .dict [] => return []
  | .dict entries => return [← getMessage entries]
  | _ => throw .attributeError

theorem parseRecords_cons (record : String) (rest : List String) :
    parseRecords json (record :: rest) = do
      let messages ← readRecord json record
      return messages ++ (← parseRecords json rest) := by
  rw [parseRecords, readRecord]
  rcases json.loads record with e | (_ | _ | _ | _ | _ | _ | _ | _ | (_ | entries) | _) <;> try rfl
  · show parseRecords json rest = (parseRecords json rest).bind Except.ok
    cases parseRecords json rest <;> rfl
  · simp only [bind, Except.bind]
    cases getMessage (_ :: _) <;> rfl

/-- The loop goes on where it stopped. -/
theorem parseRecords_append (before after : List String) :
    parseRecords json (before ++ after) = do
      let messages ← parseRecords json before
      return messages ++ (← parseRecords json after) := by
  induction before with
  | nil =>
      show parseRecords json after = (parseRecords json after).bind Except.ok
      cases parseRecords json after <;> rfl
  | cons record before ih =>
      rw [List.cons_append, parseRecords_cons, parseRecords_cons, ih]
      cases readRecord json record with
      | error e => rfl
      | ok messages =>
          cases parseRecords json before with
          | error e => rfl
          | ok more => cases parseRecords json after <;> simp [bind, Except.bind, pure, Except.pure]

/-- A text with a separator in it is read as the two texts around it: what the first one raises is
raised, and otherwise the messages of the second follow those of the first. -/
theorem parseMessages_append (before after : String) :
    parseMessages json (before ++ String.singleton recordSeparator ++ after) = do
      let messages ← parseMessages json before
      return messages ++ (← parseMessages json after) := by
  unfold parseMessages
  rw [records_append, parseRecords_append]

end JsonHubProtocol

/-! ## Values -/

/-- JSON represents the value that is serialised in its place. -/
def Writable (value : Value) : Prop :=
  ∃ written, plain value = .ok written ∧ written.IsJson

/-- The value that is serialised in its place, where there is one. -/
def plainly (value : Value) : Value :=
  (plain value).toOption.getD .none

theorem Writable.plain_eq {value : Value} (h : Writable value) :
    plain value = .ok (plainly value) := by
  obtain ⟨written, hwritten, -⟩ := h
  rw [plainly, hwritten]
  rfl

theorem Writable.isJson {value : Value} (h : Writable value) : (plainly value).IsJson := by
  obtain ⟨written, hwritten, hjson⟩ := h
  rw [plainly, hwritten]
  exact hjson

theorem Value.IsJson.writable {value : Value} (h : value.IsJson) : Writable value :=
  ⟨value, plain_of_isJson h, h⟩

theorem Writable.list {items : List Value} (h : ∀ item ∈ items, Writable item) :
    Writable (.list items) := by
  have hitems : plainItems items = .ok (items.map plainly) := by
    induction items with
    | nil => rfl
    | cons item items ih =>
        rw [plainItems, (h item (by simp)).plain_eq,
          ih fun other hother => h other (by simp [hother])]
        rfl
  refine ⟨.list (items.map plainly), ?_, .list _ ?_⟩
  · rw [plain, hitems]
    rfl
  · intro written hwritten
    obtain ⟨item, hitem, rfl⟩ := List.mem_map.mp hwritten
    exact (h item hitem).isJson

/-- A dictionary is JSON when its keys are distinct strings and its values are JSON. -/
theorem isJson_dict_iff {d : Dict} :
    Value.IsJson (.dict d) ↔
      d.AllJson ∧ ∃ keys : List String, d.map Prod.fst = keys.map Value.str ∧ keys.Nodup := by
  constructor
  · intro h
    refine ⟨h.allJson, ?_⟩
    cases h with
    | dict keys values hlength hkeys _ =>
        exact ⟨keys, List.map_fst_zip (by simp [hlength]), hkeys⟩
  · rintro ⟨hall, keys, hkeys, hnodup⟩
    have hlength : keys.length = (d.map Prod.snd).length := by
      simpa using (congrArg List.length hkeys).symm
    have hzip : d = (keys.map Value.str).zip (d.map Prod.snd) := List.zip_of_prod hkeys rfl
    rw [hzip]
    refine .dict keys _ hlength hnodup fun value hvalue => ?_
    obtain ⟨entry, hentry, rfl⟩ := List.mem_map.mp hvalue
    exact hall entry hentry

theorem Value.IsJson.set {d : Dict} (h : Value.IsJson (.dict d)) (key : String) {value : Value}
    (hvalue : value.IsJson) : Value.IsJson (.dict (d.set key value)) := by
  obtain ⟨hall, keys, hkeys, hnodup⟩ := isJson_dict_iff.mp h
  refine isJson_dict_iff.mpr ⟨hall.set key hvalue, ?_⟩
  unfold Dict.set
  split_ifs with hany
  · refine ⟨keys, ?_, hnodup⟩
    rw [← hkeys, List.map_map, List.map_inj_left]
    intro entry _
    by_cases hkey : entry.1.eqStr key <;> simp [hkey]
  · refine ⟨keys ++ [key], by simp [hkeys], ?_⟩
    rw [List.nodup_append]
    refine ⟨hnodup, by simp, ?_⟩
    rintro k hk _ hsame rfl
    rw [List.mem_singleton.mp hsame] at hk
    have hmem : Value.str key ∈ d.map Prod.fst := by
      rw [hkeys]
      exact List.mem_map_of_mem hk
    obtain ⟨entry, hentry, hfst⟩ := List.mem_map.mp hmem
    exact hany (List.any_eq_true.mpr ⟨entry, hentry, by simp [hfst, Value.eqStr]⟩)

/-- The attributes of an object are serialised one by one. -/
theorem plainEntries_map {entries : Dict} (h : ∀ entry ∈ entries, Writable entry.2) :
    plainEntries entries = .ok (entries.map fun entry => (entry.1, plainly entry.2)) := by
  induction entries with
  | nil => rfl
  | cons entry entries ih =>
      rw [plainEntries, (h entry (by simp)).plain_eq,
        ih fun other hother => h other (by simp [hother])]
      rfl

/-! ## Messages -/

namespace Message

/-- The message with other values in its attributes. -/
def map (f : Value → Value) : Message → Message
  | .invocation headers invocationId target arguments =>
      .invocation (f headers) (f invocationId) (f target) (f arguments)
  | .invocationClientStream headers target arguments streamIds =>
      .invocationClientStream (f headers) (f target) (f arguments) (f streamIds)
  | .streamItem headers invocationId item => .streamItem (f headers) (f invocationId) (f item)
  | .completion headers invocationId result error =>
      .completion (f headers) (f invocationId) (f result) (f error)
  | .completionClientStream headers invocationId =>
      .completionClientStream (f headers) (f invocationId)
  | .streamInvocation headers invocationId target arguments streamIds =>
      .streamInvocation (f headers) (f invocationId) (f target) (f arguments) (f streamIds)
  | .cancelInvocation headers invocationId => .cancelInvocation (f headers) (f invocationId)
  | .ping => .ping
  | .close error => .close (f error)

/-- What `get_message` makes of the object that is written for a message: it does not look at
`streamIds`. -/
def received : Message → Message
  | .invocation headers invocationId target arguments =>
      .newInvocation invocationId headers target arguments
  | .invocationClientStream headers target arguments _ =>
      .newInvocation .none headers target arguments
  | .streamItem headers invocationId item => .newStreamItem invocationId headers item
  | .completion headers invocationId result error =>
      .newCompletion invocationId headers result error
  | .completionClientStream headers invocationId =>
      .newCompletion invocationId headers .none .none
  | .streamInvocation headers invocationId target arguments _ =>
      .newStreamInvocation invocationId headers target arguments
  | .cancelInvocation headers invocationId => .newCancelInvocation invocationId headers
  | .ping => .ping
  | .close error => .close error

/-- What the other side reads where the message was written. -/
def heard (message : Message) : Message :=
  (message.map plainly).received

theorem type_map (f : Value → Value) (message : Message) : (message.map f).type = message.type := by
  cases message <;> rfl

theorem attributes_map (f : Value → Value) (message : Message) :
    (message.map f).attributes = message.attributes.map fun entry => (entry.1, f entry.2) := by
  cases message <;> rfl

/-- Its attributes can be written. -/
def IsWritable (message : Message) : Prop :=
  ∀ entry ∈ message.attributes, Writable entry.2

theorem getMessage_received (message : Message) :
    getMessage (wireDict message) = .ok message.received := by
  rw [getMessage_eq]
  cases message <;>
    simp [wireDict, messageType, Dict.get, Dict.getItem, received, bind, Except.bind, pure,
      Except.pure]

/-- The object that is written is JSON where the attributes are. -/
theorem isJson_wireDict {message : Message} (h : ∀ entry ∈ message.attributes, entry.2.IsJson) :
    Value.IsJson (.dict (wireDict message)) := by
  cases message with
  | invocation headers invocationId target arguments =>
      simp only [attributes, List.forall_mem_cons] at h
      exact isJson_dict ["type", "headers", "target", "arguments", "invocationId"]
        [_, _, _, _, _] rfl (by decide) ⟨.int _, h.1, h.2.2.1, h.2.2.2.1, h.2.1⟩
  | invocationClientStream headers target arguments streamIds =>
      simp only [attributes, List.forall_mem_cons] at h
      exact isJson_dict ["type", "headers", "target", "arguments", "streamIds"]
        [_, _, _, _, _] rfl (by decide) ⟨.int _, h.1, h.2.1, h.2.2.1, h.2.2.2.1⟩
  | streamItem headers invocationId item =>
      simp only [attributes, List.forall_mem_cons] at h
      exact isJson_dict ["type", "headers", "item", "invocationId"]
        [_, _, _, _] rfl (by decide) ⟨.int _, h.1, h.2.2.1, h.2.1⟩
  | completion headers invocationId result error =>
      simp only [attributes, List.forall_mem_cons] at h
      exact isJson_dict ["type", "headers", "result", "error", "invocationId"]
        [_, _, _, _, _] rfl (by decide) ⟨.int _, h.1, h.2.2.1, h.2.2.2.1, h.2.1⟩
  | completionClientStream headers invocationId =>
      simp only [attributes, List.forall_mem_cons] at h
      exact isJson_dict ["type", "headers", "invocationId"]
        [_, _, _] rfl (by decide) ⟨.int _, h.1, h.2.1⟩
  | streamInvocation headers invocationId target arguments streamIds =>
      simp only [attributes, List.forall_mem_cons] at h
      exact isJson_dict ["type", "headers", "target", "arguments", "invocationId", "streamIds"]
        [_, _, _, _, _, _] rfl (by decide)
        ⟨.int _, h.1, h.2.2.1, h.2.2.2.1, h.2.1, h.2.2.2.2.1⟩
  | cancelInvocation headers invocationId =>
      simp only [attributes, List.forall_mem_cons] at h
      exact isJson_dict ["type", "headers", "invocationId"] [_, _, _] rfl (by decide)
        ⟨.int _, h.1, h.2.1⟩
  | ping => exact isJson_dict ["type"] [_] rfl (by decide) (.int _)
  | close error =>
      simp only [attributes, List.forall_mem_cons] at h
      exact isJson_dict ["type", "error"] [_, _] rfl (by decide) ⟨.int _, h.1⟩

end Message

/-! ## Batches -/

namespace JsonHubProtocol

variable {json : PyJson}

/-- What is written for a message is a record of what is heard of it. -/
theorem encodeMessage_heard (hjson : json.Documented) {message : Message}
    (h : message.IsWritable) :
    ∃ record, IsRecord json message.heard record ∧
      encodeMessage json message = .ok (record ++ String.singleton recordSeparator) := by
  have hattributes : ∀ entry ∈ (message.map plainly).attributes, entry.2.IsJson := by
    intro entry hentry
    rw [Message.attributes_map] at hentry
    obtain ⟨old, hold, rfl⟩ := List.mem_map.mp hentry
    exact (h old hold).isJson
  have hplain : plainEntries message.dict = .ok (message.map plainly).dict := by
    have htype : Writable (.int message.type.value) := Value.IsJson.writable (.int _)
    have hall : ∀ entry ∈ message.dict, Writable entry.2 := by
      intro entry hentry
      rcases List.mem_cons.mp hentry with rfl | hentry
      · exact htype
      · exact h entry hentry
    rw [plainEntries_map hall, Message.dict, Message.dict, Message.attributes_map,
      Message.type_map]
    rfl
  obtain ⟨record, hdumps, hloads, hprintable⟩ :=
    hjson.loads_dumps _ (Message.isJson_wireDict hattributes)
  refine ⟨record, ⟨⟨_, hloads, ?_, Message.getMessage_received _⟩, ?_, ?_⟩, ?_⟩
  · cases message <;> exact Nat.succ_pos _
  · rintro rfl
    exact hjson.loads_empty _ hloads
  · intro hmem
    exact absurd (hprintable _ hmem) (by decide)
  · simp only [encodeMessage, encodeDict, hplain, default_dict, hdumps, bind, Except.bind, pure,
      Except.pure]

theorem parseMessages_record {message : Message} {record : String}
    (h : IsRecord json message record) :
    parseMessages json (record ++ String.singleton recordSeparator) = .ok [message] := by
  have hframe : frame [record] = record ++ String.singleton recordSeparator := by
    simp [frame, String.join]
  rw [← hframe]
  exact parseMessages_frame (.cons h .nil)

theorem mapM_heard (hjson : json.Documented) {messages : List Message}
    (h : ∀ message ∈ messages, message.IsWritable) :
    ∃ records, List.Forall₂ (IsRecord json) (messages.map Message.heard) records ∧
      messages.mapM (encodeMessage json) =
        .ok (records.map (· ++ String.singleton recordSeparator)) := by
  induction messages with
  | nil => exact ⟨[], .nil, rfl⟩
  | cons message messages ih =>
      obtain ⟨record, hrecord, hfirst⟩ := encodeMessage_heard hjson (h message (by simp))
      obtain ⟨records, hrecords, hrest⟩ := ih fun other hother => h other (by simp [hother])
      refine ⟨record :: records, .cons hrecord hrecords, ?_⟩
      rw [List.mapM_cons, hfirst, hrest]
      rfl

/-- A batch of messages of any class is written, and what is read is what is heard of each. -/
theorem parseMessages_heard (hjson : json.Documented) (messages : List Message)
    (h : ∀ message ∈ messages, message.IsWritable) :
    ∃ texts, messages.mapM (encodeMessage json) = .ok texts ∧
      parseMessages json (String.join texts) = .ok (messages.map Message.heard) := by
  obtain ⟨records, hrecords, hwritten⟩ := mapM_heard hjson h
  exact ⟨_, hwritten, parseMessages_frame hrecords⟩

/-- A call with an object in its arguments. -/
def objectCall : Message :=
  .invocation (.dict []) (.str "1") (.str "Send")
    (.list [.object [("invocation_id", .int 2)], .tuple []])

theorem objectCall_isWritable : objectCall.IsWritable := by
  have hobject : Writable (.object [("invocation_id", .int 2)]) :=
    ⟨.dict [(.str "invocationId", .int 2)], rfl,
      isJson_dict ["invocationId"] [_] rfl (by decide) (.int 2)⟩
  have htuple : Writable (.tuple []) := ⟨.list [], rfl, .list [] (by simp)⟩
  have harguments : Writable (.list [.object [("invocation_id", .int 2)], .tuple []]) :=
    Writable.list (by simpa using ⟨hobject, htuple⟩)
  have hheaders : Writable (.dict []) :=
    Value.IsJson.writable (isJson_dict [] [] rfl (by decide) trivial)
  have hid : Writable (.str "1") := Value.IsJson.writable (.str "1")
  have htarget : Writable (.str "Send") := Value.IsJson.writable (.str "Send")
  simpa [Message.IsWritable, objectCall, Message.attributes] using
    ⟨hheaders, hid, htarget, harguments⟩

/-- The object is read as a dictionary with another key, the tuple as a list. -/
theorem parseMessages_heard_object :
    ∃ texts, [objectCall].mapM (encodeMessage JsonText.python) = .ok texts ∧
      parseMessages JsonText.python (String.join texts) =
        .ok [.invocation (.dict []) (.str "1") (.str "Send")
          (.list [.dict [(.str "invocationId", .int 2)], .list []])] :=
  parseMessages_heard JsonText.python_documented [objectCall]
    (by simpa using objectCall_isWritable)

end JsonHubProtocol

end GeventSignalR
