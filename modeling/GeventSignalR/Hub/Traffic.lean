import GeventSignalR.Hub.ClientStream
import GeventSignalR.Hub.Requests
import GeventSignalR.Protocol.Wire

/-!
# What a connection writes

Which messages go over the websockets of a connection.

* `Saying` are the runs in which the values that the user passes on have a property.
* `Spoken` are the messages that can be written then: there are seven kinds of them, and none is a
  `Close` or a `CancelInvocation`.
* `spoken_reach`: no other message is ever written.
* `heard_reach`: where JSON can represent the values, the other side reads every message as it is
  heard.
-/

namespace GeventSignalR

open Coop Coop.Prog WebsocketTransport

/-- Where headers come from, for a property of them. -/
structure Heads (cfg : Config) (H : Dict → Prop) : Prop where
  configured : H cfg.headers
  token : ∀ {headers}, H headers → ∀ token, H (authorized headers token)
  redirect : ∀ token, H (redirectHeaders token)

/-- The values in the arguments of `send`. -/
def Arguments.values : Arguments → List Value
  | .list items => items
  | _ => []

/-- The values that the user passes on. -/
def Activity.values : Activity → List Value
  | .send method arguments _ _ _ => method :: arguments.values
  | .stream _ eventParams _ => [eventParams]
  | .next _ item => [item]
  | _ => []

/-- They all have the property. -/
def Saying (J : Value → Prop) : Cond State Exc Op Op.Result Activity where
  fork := fun _ _ _ => True
  start := fun _ _ t => ∀ value ∈ t.values, J value
  resume := fun _ _ _ _ _ => True

instance (J : Value → Prop) [DecidablePred J] : System.Decides (Saying J) where
  fork := fun _ _ _ => isTrue trivial
  start := fun _ _ t => inferInstanceAs (Decidable (∀ value ∈ t.values, J value))
  resume := fun _ _ _ _ _ => isTrue trivial

theorem Saying.mono {J J' : Value → Prop} (h : ∀ value, J value → J' value) :
    (Saying J).Implies (Saying J') :=
  ⟨fun _ _ _ h => h, fun _ _ _ hall value hvalue => h value (hall value hvalue),
    fun _ _ _ _ _ h => h⟩

/-- A message that the package makes of headers, and of values of the user. -/
inductive Spoken (cfg : Config) (H : Dict → Prop) (J : Value → Prop) : Outgoing → Prop where
  | handshake : Spoken cfg H J (.handshake cfg.protocol.handshakeMessage)
  | ping : Spoken cfg H J (.hub .ping)
  | invocation {headers : Dict} {id : String} {method : Value} {items : List Value}
      (hheaders : H headers) (hmethod : J method) (hitems : ∀ item ∈ items, J item) :
      Spoken cfg H J (.hub (.newInvocation (.str id) (.dict headers) method (.list items)))
  | streamInvocation {headers : Dict} {id event : String} {eventParams : Value}
      (hheaders : H headers) (hparams : J eventParams) :
      Spoken cfg H J (.hub (.newStreamInvocation (.str id) (.dict headers) (.str event) eventParams))
  | clientStream {id : String} {method : Value} (hmethod : J method) :
      Spoken cfg H J
        (.hub (.newInvocationClientStream (.list [.str id]) .none method (.tuple [])))
  | item {id : String} {item : Value} (hitem : J item) :
      Spoken cfg H J (.hub (.newStreamItem (.str id) .none item))
  | completion {id : String} : Spoken cfg H J (.hub (.newCompletionClientStream (.str id) .none))

/-! ## The invariant -/

/-- The subjects' methods are values of the user. -/
def Targeted (J : Value → Prop) (s : State) : Prop :=
  ∀ (n : Nat) (object : Subject) (target : Value),
    s.subjects[n]? = some object → object.target = some target → J target

/-- A message that is being written. -/
def speaks (cfg : Config) (H : Dict → Prop) (J : Value → Prop) : Label Op Activity → Prop
  | .blocked _ (.wsSend _ message) => Spoken cfg H J message
  | _ => True

/-- The invariant. -/
abbrev SpeaksInv (cfg : Config) (H : Dict → Prop) (J : Value → Prop) : HubInv :=
  Pointwise (Targeted J) fun _ => speaks cfg H J

/-- The runs that are looked at, with what is known of the headers. -/
abbrev Heading (H : Dict → Prop) (J : Value → Prop) : Cond State Exc Op Op.Result Activity :=
  (Saying J).and (.within fun s _ => H s.headers)

/-- What the proof assumes. -/
abbrev speaking (cfg : Config) (H : Dict → Prop) (J : Value → Prop) (t : Activity) : HubRely :=
  (hub cfg).rely (Heading H J) (SpeaksInv cfg H J) t

/-- The invariant, where the headers are known. -/
abbrev HeadedInv (cfg : Config) (H : Dict → Prop) (J : Value → Prop) : HubInv :=
  fun s P => H s.headers ∧ SpeaksInv cfg H J s P

variable {cfg : Config} {H : Dict → Prop} {J : Value → Prop} {t : Activity} {s s' : State}
  {P : Multiset (Label Op Activity)}

theorem SpeaksInv.congr (h : SpeaksInv cfg H J s P) (hs : s'.subjects = s.subjects) :
    SpeaksInv cfg H J s' P := by
  refine ⟨?_, h.at_⟩
  unfold Targeted
  rw [hs]
  exact h.base

theorem speaks_modify {f : State → State} (hf : ∀ s, (f s).subjects = s.subjects) :
    Keeps (speaking cfg H J t) (SpeaksInv cfg H J) (modify f : Hub Unit) :=
  Keeps.modify fun s _ h => SpeaksInv.congr h (hf s)

theorem speaks_perform {op : Op} (hop : isWrite op = false) :
    Keeps (speaking cfg H J t) (SpeaksInv cfg H J) (perform op) := by
  apply Pointwise.perform
  intro s _
  cases op with
  | wsSend app message => cases hop
  | _ => trivial

theorem speaks_off : OffTransport (speaking cfg H J t) (SpeaksInv cfg H J) where
  congr := fun h hs => SpeaksInv.congr h (congrArg (·.subjects) hs)
  perform := fun hop => speaks_perform (isWrite_of_isService hop)
  fork := fun _ => Pointwise.fork fun _ _ => trivial

theorem speaks_send {message : Outgoing} (hmessage : Spoken cfg H J message) :
    Keeps (speaking cfg H J t) (SpeaksInv cfg H J) (WebsocketTransport.send cfg message) :=
  speaks_off.send fun _ => Pointwise.perform fun _ _ => hmessage

/-! ## Subjects -/

/-- A change of a subject that leaves its method, or sets it to a value of the user. -/
theorem speaks_set {subject : Nat} {f : Subject → Subject}
    (hf : ∀ object target, (f object).target = some target →
      object.target = some target ∨ J target) :
    Keeps (speaking cfg H J t) (SpeaksInv cfg H J) (Subject.set subject f) := by
  apply Keeps.modify
  intro s P h
  refine ⟨?_, h.at_⟩
  intro n object target hobject htarget
  rw [List.getElem?_modify] at hobject
  obtain ⟨old, hold, rfl⟩ := Option.map_eq_some_iff.mp hobject
  split_ifs at htarget with hn
  · rcases hf old target htarget with hkept | hnew
    · exact h.base n old target hold hkept
    · exact hnew
  · exact h.base n old target hold htarget

/-- A message that a subject sends while it holds the lock. -/
theorem speaks_locked {subject : Nat} {message : Subject → Message}
    (hmessage : ∀ object target, object.target = some target → J target →
      Spoken cfg H J (.hub (message object))) :
    Keeps (speaking cfg H J t) (SpeaksInv cfg H J)
      (Subject.withLock subject (Subject.serve cfg subject message)) := by
  have hset : Keeps (speaking cfg H J t) (SpeaksInv cfg H J)
      (Subject.set subject Subject.unlock) :=
    speaks_set fun _ _ h => .inl h
  have htake : Keeps (speaking cfg H J t) (SpeaksInv cfg H J) (Subject.takeLock subject) :=
    Keeps.bind (speaks_set fun _ _ h => .inl h) fun _ => speaks_modify fun _ => rfl
  have hserve : Keeps (speaking cfg H J t) (SpeaksInv cfg H J)
      (Subject.serve cfg subject message) := by
    intro s P h hI
    unfold Subject.serve Subject.connection Subject.object Subject.send
    simp only [wp_bind, wp_get]
    cases hobject : s.subjects[subject]? with
    | none => exact hI
    | some object =>
        simp only [Option.elim_some, wp_pure, wp_when]
        cases htarget : object.target with
        | none => exact hI
        | some target =>
            have hspoken := hmessage object target htarget (hI.base _ _ _ hobject htarget)
            simp only [Option.isNone_some, Bool.false_eq_true, if_false, hobject,
              Option.elim_some, wp_pure, record, wp_modify]
            exact speaks_send hspoken _ P h (SpeaksInv.congr hI rfl)
  exact Keeps.bind Subject.keeps_object fun _ =>
    Keeps.bind (Keeps.when fun _ => speaks_perform rfl) fun _ => Keeps.bind htake fun _ =>
      Keeps.finally_ hserve hset

/-- A new subject has no method. -/
theorem speaks_newSubject (uuid : String) :
    Keeps (speaking cfg H J t) (SpeaksInv cfg H J)
      (modify fun s => { s with subjects := s.subjects ++ [⟨none, uuid, false⟩] } : Hub Unit) := by
  apply Keeps.modify
  intro s P h
  refine ⟨?_, h.at_⟩
  intro n object target hobject htarget
  rcases List.mem_append.mp (List.mem_of_getElem? hobject) with hold | hnew
  · obtain ⟨m, hm⟩ := List.mem_iff_getElem?.mp hold
    exact h.base m object target hm htarget
  · rw [List.mem_singleton.mp hnew] at htarget
    cases htarget

/-! ## Calls -/

theorem headed_modify {f : State → State}
    (hf : ∀ s, ((f s).headers, (f s).subjects) = (s.headers, s.subjects)) :
    Keeps (speaking cfg H J t) (HeadedInv cfg H J) (modify f : Hub Unit) := by
  apply Keeps.modify
  rintro s P ⟨hheaders, hI⟩
  have hsame := hf s
  rw [Prod.mk.injEq] at hsame
  refine ⟨?_, hI.congr hsame.2⟩
  rw [hsame.1]
  exact hheaders

/-- A token leaves headers as they can be. -/
theorem headed_refresh (hheads : Heads cfg H) (site : AuthSite) :
    Keeps (speaking cfg H J t) (HeadedInv cfg H J) (Connection.refreshTokenMaybe cfg site) := by
  apply Connection.keeps_refreshTokenMaybe
  · refine Keeps.perform (fun _ _ h => h.2.cons trivial) ?_
    intro s P r hI hresume
    exact ⟨hresume.1.2, hI.tail⟩
  · exact fun token => Keeps.modify fun s P h => ⟨hheads.token h.1 token, h.2.congr rfl⟩

theorem headed_register (handler : Handler) :
    Keeps (speaking cfg H J t) (HeadedInv cfg H J) (Connection.register handler) :=
  Connection.keeps_register (headed_modify fun _ => rfl) (headed_modify fun _ => rfl)

theorem speaks_sendList {method : Value} {items : List Value} {onInvocation : Option Nat}
    {invocationId : String} (hmethod : J method) (hitems : ∀ item ∈ items, J item) :
    Leads (speaking cfg H J t) (HeadedInv cfg H J) (SpeaksInv cfg H J)
      (Connection.sendList cfg method items onInvocation invocationId) := by
  apply Leads.get_bind
  intro s P h hI
  have hspoken : Spoken cfg H J (.hub (.newInvocation (.str invocationId) (.dict s.headers) method
      (.list items))) :=
    .invocation hI.1 hmethod hitems
  suffices hleads : Leads (speaking cfg H J t) (HeadedInv cfg H J) (SpeaksInv cfg H J) _ from
    hleads s P h hI
  exact Leads.bind (fun _ _ h => h.2) (keeps_elim (.pure _) fun _ => headed_register _)
    fun _ => Leads.to_keeps (fun _ _ h => h.2) (speaks_send hspoken)

theorem speaks_sendSubject {method : Value} {subject : Nat} (hmethod : J method) :
    Keeps (speaking cfg H J t) (SpeaksInv cfg H J) (Connection.sendSubject cfg method subject) := by
  refine Keeps.bind (speaks_set fun object target htarget => ?_) fun _ => ?_
  · cases htarget
    exact .inr hmethod
  · apply speaks_locked
    intro object target htarget hJ
    rw [htarget]
    exact .clientStream hJ

theorem speaks_call (hheads : Heads cfg H) {method : Value} {arguments : Arguments}
    {onInvocation : Option Nat} {invocationId : Option String} {uuid : String}
    (hmethod : J method) (harguments : ∀ value ∈ arguments.values, J value) :
    Leads (speaking cfg H J t) (HeadedInv cfg H J) (SpeaksInv cfg H J)
      (Connection.send cfg method arguments onInvocation invocationId uuid) := by
  have hweaken : ∀ s P, HeadedInv cfg H J s P → SpeaksInv cfg H J s P := fun _ _ h => h.2
  refine Leads.bind hweaken (headed_modify fun _ => rfl) fun _ => Leads.bind hweaken .get fun _ =>
    Leads.bind hweaken (Keeps.when fun _ => .raise _) fun _ =>
      Leads.bind hweaken (Keeps.when fun _ => .raise _) fun _ =>
        Leads.bind hweaken (headed_refresh hheads .send) fun _ => ?_
  cases arguments with
  | list items => exact speaks_sendList hmethod harguments
  | subject subject => exact Leads.to_keeps hweaken (speaks_sendSubject hmethod)
  | other => exact fun _ _ _ h => h.2

theorem speaks_stream {event uuid : String} {eventParams : Value} (hparams : J eventParams) :
    Leads (speaking cfg H J t) (HeadedInv cfg H J) (SpeaksInv cfg H J)
      (Connection.stream cfg event eventParams uuid) := by
  have hweaken : ∀ s P, HeadedInv cfg H J s P → SpeaksInv cfg H J s P := fun _ _ h => h.2
  refine Leads.bind hweaken (headed_modify fun _ => rfl) fun _ => Leads.get_bind ?_
  intro s P h hI
  have hspoken : Spoken cfg H J (.hub (.newStreamInvocation (.str uuid) (.dict s.headers)
      (.str event) eventParams)) :=
    .streamInvocation hI.1 hparams
  suffices hleads : Leads (speaking cfg H J t) (HeadedInv cfg H J) (SpeaksInv cfg H J) _ from
    hleads s P h hI
  exact Leads.bind hweaken (headed_modify fun _ => rfl) fun _ =>
    Leads.bind hweaken (headed_register _) fun _ => Leads.to_keeps hweaken (speaks_send hspoken)

/-! ## Greenlets -/

theorem speaks_runForever (app : Nat) :
    Keeps (speaking cfg H J t) (SpeaksInv cfg H J) (WebSocketApp.runForever cfg app) := by
  have hoff : OffTransport (speaking cfg H J t) (SpeaksInv cfg H J) := speaks_off
  have hdispatch : Connection.KeepsDispatch (speaking cfg H J t) (SpeaksInv cfg H J) :=
    { calls := ⟨fun _ => speaks_modify fun _ => rfl, fun _ _ => hoff.perform rfl⟩
      dispatched := fun _ => speaks_modify fun _ => rfl
      unregister := fun _ => speaks_modify fun _ => rfl
      event := fun _ _ => hoff.perform rfl
      error := fun _ => hoff.perform rfl }
  refine hoff.runForever (WebSocketApp.keeps_round
    { block := fun _ _ h => h.cons trivial
      resume := fun _ _ _ h _ => h.tail
      opened := ?_
      message := ?_
      silent := hoff.modify fun _ => rfl
      error := hoff.toOffSocket.callback (hoff.toOffSocket.onSocketError _) })
  · intro s P h hI _
    exact WebSocketApp.keeps_handleOpened (hoff.toOffSocket.setApp fun _ => rfl)
      (hoff.toOffSocket.callback (speaks_send .handshake)) s P h hI.tail
  · intro raw s P h hI _
    exact WebSocketApp.keeps_handleMessage (hoff.toOffSocket.callback
      (WebsocketTransport.keeps_onMessage
        (hoff.toOffSocket.receive (fun _ => speaks_modify fun _ => rfl)
          fun f _ => speaks_modify fun _ => rfl)
        fun _ => Connection.keeps_onMessage (fun _ => Connection.keeps_dispatch hdispatch)
          (hoff.toOffSocket.stop _))) s P h hI.tail

theorem speaks_body (hheads : Heads cfg H) (t : Activity)
    (hvalues : ∀ value ∈ t.values, J value) :
    Leads (speaking cfg H J t) (HeadedInv cfg H J) (SpeaksInv cfg H J) (Hub.body cfg t) := by
  have hoff : OffTransport (speaking cfg H J t) (SpeaksInv cfg H J) := speaks_off
  have hkeeps : ∀ {p : Hub Bool}, Keeps (speaking cfg H J t) (SpeaksInv cfg H J) p →
      Leads (speaking cfg H J t) (HeadedInv cfg H J) (SpeaksInv cfg H J) p :=
    fun hp => Leads.to_keeps (fun _ _ h => h.2) hp
  have hmodify : ∀ {f : State → State}, (∀ s, (f s).subjects = s.subjects) →
      Leads (speaking cfg H J t) (HeadedInv cfg H J) (SpeaksInv cfg H J) (Hub.once (modify f)) :=
    fun hf => hkeeps (keeps_once (speaks_modify hf))
  cases t with
  | start =>
      exact hkeeps (keeps_once (Keeps.bind (speaks_modify fun _ => rfl) fun _ => hoff.start))
  | stop =>
      exact hkeeps (keeps_once (Keeps.finally_ (hoff.toOffSocket.stop _)
        (speaks_modify fun _ => rfl)))
  | send method arguments onInvocation invocationId uuid =>
      obtain ⟨hmethod, harguments⟩ := List.forall_mem_cons.mp hvalues
      exact Leads.bind_keeps (speaks_call hheads hmethod harguments) fun _ => .pure _
  | stream event eventParams uuid =>
      have hparams : J eventParams := hvalues eventParams (List.mem_singleton.mpr rfl)
      exact Leads.bind_keeps (speaks_stream hparams) fun _ => .pure _
  | subscribe object callbacks =>
      exact hkeeps (keeps_once (StreamHandler.keeps_subscribeObject
        fun _ => speaks_modify fun _ => rfl))
  | newSubject uuid => exact hkeeps (keeps_once (speaks_newSubject uuid))
  | next subject item =>
      have hitem : J item := hvalues item (List.mem_singleton.mpr rfl)
      exact hkeeps (keeps_once (speaks_locked fun _ _ _ _ => .item hitem))
  | complete subject =>
      exact hkeeps (keeps_once (speaks_locked fun _ _ _ _ => .completion))
  | runForever app => exact hkeeps (speaks_runForever app)
  | checkerRun =>
      exact hkeeps (ConnectionStateChecker.keeps_run (hoff.perform rfl) (speaks_send .ping))
  | deferredReconnect sleepTime =>
      exact hkeeps (keeps_once (WebsocketTransport.keeps_deferredReconnect (hoff.perform rfl)
        (speaks_send .ping) hoff.toOffSocket.setHandler (speaks_modify fun _ => rfl)))
  | _ => exact hmodify fun _ => rfl

/-! ## Runs -/

theorem heads_sustained (hheads : Heads cfg H) :
    Sustains cfg (Saying J) fun _ headers => H headers where
  configured := hheads.configured
  token := fun _ h => hheads.token h _
  response := by
    intro s P t url headers response result url' headers' _ hresult h
    rw [(negotiated_ok hresult).2]
    cases negotiation response with
    | redirect target token => exact hheads.redirect _
    | _ => exact h

theorem speaks_proof (hheads : Heads cfg H) :
    Proof (hub cfg) (Heading H J) (SpeaksInv cfg H J) fun _ _ _ _ => True := by
  have henter : KeepsEntering (Heading H J) (SpeaksInv cfg H J) :=
    { inv := fun _ _ _ h => h.congr rfl
      start := fun _ _ _ _ h => h
      resume := fun _ _ _ _ _ _ h => h }
  apply Hub.proof henter
  · constructor <;> simp [Targeted, State.new]
  · exact fun _ _ _ h _ _ => h.cons trivial
  · intro s P t h hstart
    exact ends_of_ready (fun _ _ h => h.tail) (wp_mono (fun _ _ _ _ h => h.cons trivial)
      (speaks_body hheads t hstart.1 s P [] ⟨hstart.2, h.tail⟩))

theorem speaks_reach (hheads : Heads cfg H) {w : World State Exc Op Op.Result Activity}
    (h : (hub cfg).Reach (Saying J) w) : SpeaksInv cfg H J w.shared w.labels := by
  have henter : KeepsEntering (Saying J) (RequestedInv cfg fun _ headers => H headers) :=
    { inv := fun _ _ _ h => ⟨h.base.congr rfl, h.at_⟩
      start := fun _ _ _ _ h => h
      resume := fun _ _ _ _ _ _ h => h }
  have hheaded : (hub cfg).Reach (Heading H J) w :=
    h.within fun w hw => (requested_reach (heads_sustained hheads) henter hw).base.connection
  exact ((speaks_proof hheads).sound hheaded).holds

/-- In every run, a message that is written to a websocket is one of the seven kinds, with headers
of the connection and values that the user has passed on. -/
theorem spoken_reach (hheads : Heads cfg H) {w : World State Exc Op Op.Result Activity}
    (h : (hub cfg).Reach (Saying J) w) {t : Activity} {app : Nat} {message : Outgoing}
    (hwrite : .blocked t (.wsSend app message) ∈ w.labels) : Spoken cfg H J message :=
  (speaks_reach hheads h).at_ _ hwrite

/-- A string. -/
def isText : Value → Bool
  | .str _ => true
  | _ => false

/-- A call while the connection is open, in a run whose values are strings. -/
theorem notify_reach :
    ∃ w, (hub (.direct none)).Reach (Saying fun value => isText value = true) w ∧
      .blocked (.send (.str "Notify") (.list [.str "a"]) none none "1") (.wsSend 0
        (.hub (.newInvocation (.str "1") (.dict []) (.str "Notify") (.list [.str "a"])))) ∈
          w.labels := by
  have h := (hub (.direct none)).reach_within (Saying fun value => isText value = true)
    [.fork .start, .start 0, .start 1, .answer 1 (.happened .opened), .answer 1 .done,
      .fork (.send (.str "Notify") (.list [.str "a"]) none none "1"), .start 2] .start rfl
  refine ⟨_, h, ?_⟩
  -- it writes in the third greenlet
  iterate 2 apply Multiset.mem_add.mpr (.inr ?_)
  exact Multiset.mem_add.mpr (.inl (Multiset.mem_singleton.mpr rfl))

theorem spoken_reach_notify :
    Spoken (.direct none) (fun _ => True) (fun value => isText value = true)
      (.hub (.newInvocation (.str "1") (.dict []) (.str "Notify") (.list [.str "a"]))) := by
  obtain ⟨w, h, hwrite⟩ := notify_reach
  exact spoken_reach ⟨trivial, fun _ _ => trivial, fun _ => trivial⟩ h hwrite

/-! ## The other side -/

/-- JSON can represent the headers of a connection. -/
theorem heads_json (hheaders : Value.IsJson (.dict cfg.headers)) :
    Heads cfg fun headers => Value.IsJson (.dict headers) where
  configured := hheaders
  token := fun h _ => h.set "Authorization" (.str _)
  redirect := fun _ => MyEncoder.isJson_dict ["Authorization"] [_] rfl (by decide) (.str _)

/-- What is made of values that JSON can represent can be written. -/
theorem Spoken.isWritable {message : Message}
    (h : Spoken cfg (fun headers => Value.IsJson (.dict headers)) Writable (.hub message)) :
    message.IsWritable := by
  have hstr (text : String) : Writable (.str text) := Value.IsJson.writable (.str text)
  have hempty : Writable (.dict []) :=
    Value.IsJson.writable (MyEncoder.isJson_dict [] [] rfl (by decide) trivial)
  have hnone : Writable (.list []) := Writable.list (by simp)
  cases h with
  | ping => simp [Message.IsWritable, Message.attributes]
  | invocation hheaders hmethod hitems =>
      simpa [Message.IsWritable, Message.attributes, Message.newInvocation,
        Message.headersOrEmpty, Value.isNone] using
        ⟨hheaders.writable, hstr _, hmethod, Writable.list hitems⟩
  | streamInvocation hheaders hparams =>
      simpa [Message.IsWritable, Message.attributes, Message.newStreamInvocation,
        Message.headersOrEmpty, Value.isNone] using
        ⟨hheaders.writable, hstr _, hstr _, hparams, hnone⟩
  | clientStream hmethod =>
      have htuple : Writable (.tuple []) := ⟨.list [], rfl, .list [] (by simp)⟩
      simpa [Message.IsWritable, Message.attributes, Message.newInvocationClientStream,
        Message.headersOrEmpty, Value.isNone] using
        ⟨hempty, hmethod, htuple, Writable.list (by simpa using hstr _)⟩
  | item hitem =>
      simpa [Message.IsWritable, Message.attributes, Message.newStreamItem,
        Message.headersOrEmpty, Value.isNone] using ⟨hempty, hstr _, hitem⟩
  | completion =>
      simpa [Message.IsWritable, Message.attributes, Message.newCompletionClientStream,
        Message.headersOrEmpty, Value.isNone] using ⟨hempty, hstr _⟩

/-- In every run of the JSON protocol in which JSON can represent the values of the user, the other
side reads a message that is written as it is heard: the frame holds it and nothing else. -/
theorem heard_reach {json : PyJson} (hjson : json.Documented)
    (hprotocol : cfg.protocol = JsonHubProtocol.protocol json)
    (hheaders : Value.IsJson (.dict cfg.headers)) {w : World State Exc Op Op.Result Activity}
    (h : (hub cfg).Reach (Saying Writable) w) {t : Activity} {app : Nat} {message : Message}
    (hwrite : .blocked t (.wsSend app (.hub message)) ∈ w.labels) :
    ∃ text, cfg.protocol.encode (.hub message) = .ok (.text text) ∧
      cfg.protocol.parseMessages (.text text) = .ok [message.heard] := by
  have hspoken := (speaks_reach (heads_json hheaders) h).at_ _ hwrite
  obtain ⟨record, hrecord, hencode⟩ :=
    JsonHubProtocol.encodeMessage_heard hjson (Spoken.isWritable hspoken)
  refine ⟨record ++ String.singleton BaseHubProtocol.recordSeparator, ?_, ?_⟩
  · rw [hprotocol]
    show (JsonHubProtocol.encodeMessage json message).map Raw.text = _
    rw [hencode]
    rfl
  · rw [hprotocol]
    exact JsonHubProtocol.parseMessages_record hrecord

/-- The call is read as it was made. -/
theorem heard_reach_notify :
    ∃ text, (Config.direct none).protocol.encode (.hub (.newInvocation (.str "1") (.dict [])
        (.str "Notify") (.list [.str "a"]))) = .ok (.text text) ∧
      (Config.direct none).protocol.parseMessages (.text text) =
        .ok [.invocation (.dict []) (.str "1") (.str "Notify") (.list [.str "a"])] := by
  obtain ⟨w, h, hwrite⟩ := notify_reach
  have hwritable : ∀ value, isText value = true → Writable value := by
    intro value hvalue
    cases value with
    | str text => exact Value.IsJson.writable (.str text)
    | _ => cases hvalue
  exact heard_reach JsonText.python_documented rfl
    (MyEncoder.isJson_dict [] [] rfl (by decide) trivial) (h.mono (Saying.mono hwritable)) hwrite

end GeventSignalR
