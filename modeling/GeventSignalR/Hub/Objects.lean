import GeventSignalR.Coop.Exits
import GeventSignalR.Hub.Callable
import GeventSignalR.Hub.Registration

/-!
# The objects of the handlers

`on_message` raises nothing but what the functions of the user raise, if the objects of the
handlers exist and hold functions, and if the errors of completions have a length.

* `Serviceable` says so of the objects; `KeepsObjects` are the calls that change them.
* `hub_growing`: no object is ever deleted, so that the handlers that a message has selected keep
  theirs.
* `ExitsDispatch` is what is known of the functions that `on_message` calls, and
  `ExitsDispatch.onMessage` what follows for a batch of messages.
-/

namespace GeventSignalR

open Coop Coop.Prog

/-- The error of a completion is absent or has a length. -/
def Message.isSized : Message → Bool
  | .completion _ _ _ error => error.isNone || error.len.isOk
  | _ => true

/-- The completions of a frame are so. -/
def isSizedFrame (cfg : Config) (raw : Raw) : Bool :=
  (cfg.protocol.parseMessages raw).toOption.all (·.all Message.isSized) &&
    (cfg.protocol.decodeHandshake raw).toOption.all (·.2.all Message.isSized)

/-- The objects hold functions, and those of the handlers exist. -/
structure Serviceable (s : State) : Prop where
  functions : ∀ handler ∈ s.streams, handler.isCallable = true
  objects : ∀ object invocationId, .stream object invocationId ∈ s.streamHandlers →
    object < s.streams.length

variable {cfg : Config} {t : Activity} {R : HubRely} {I : HubInv} {F : Exc → HubInv}
  {s : State} {P : Multiset (Label Op Activity)} {raw : Raw}

theorem isSized_of_messages {messages : List Message} (hsized : isSizedFrame cfg raw = true)
    (hparse : cfg.protocol.parseMessages raw = .ok messages) :
    ∀ message ∈ messages, message.isSized = true := by
  simp only [isSizedFrame, hparse, Except.toOption, Option.all_some, Bool.and_eq_true,
    List.all_eq_true] at hsized
  exact hsized.1

theorem isSized_of_response {response : HandshakeResponseMessage × List Message}
    (hsized : isSizedFrame cfg raw = true)
    (hdecode : cfg.protocol.decodeHandshake raw = .ok response) :
    ∀ message ∈ response.2, message.isSized = true := by
  simp only [isSizedFrame, hdecode, Except.toOption, Option.all_some, Bool.and_eq_true,
    List.all_eq_true] at hsized
  exact hsized.2

/-! ## Objects are never deleted -/

/-- The number of objects. -/
def streamCount (s : State) : Nat :=
  s.streams.length

/-- A position that no greenlet takes. -/
def unreal : Label Op Activity → Nat
  | .blocked .start (.event n) => n
  | _ => 0

/-- What this proof assumes. -/
abbrev growing (cfg : Config) (t : Activity) : HubRely :=
  (hub cfg).rely .any (Weighed streamCount unreal) t

theorem growing_modify {f : State → State} (hf : ∀ s, streamCount s ≤ streamCount (f s)) :
    Keeps (growing cfg t) (Weighed streamCount unreal) (modify f : Hub Unit) :=
  Keeps.modify fun s _ h => h.mono (hf s)

theorem growing_perform {op : Op} (hop : unreal (.blocked t op) = 0) :
    Keeps (growing cfg t) (Weighed streamCount unreal) (perform op) :=
  Keeps.perform (fun s _ h => h.cons (by rw [hop]; exact Nat.zero_le _)) fun _ _ _ h _ => h.tail

theorem unreal_of_isService {op : Op} (hop : isService op = true) :
    unreal (.blocked t op) = 0 := by
  cases op with
  | event app => cases hop
  | _ => cases t <;> rfl

theorem growing_off : OffTransport (growing cfg t) (Weighed streamCount unreal) where
  congr := fun h hs => h.mono (congrArg (·.streams.length) hs).ge
  perform := fun hop => growing_perform (unreal_of_isService hop)
  fork := fun _ => Keeps.fork fun _ _ h => h.cons (Nat.zero_le _)

theorem growing_send (message : Outgoing) :
    Keeps (growing cfg t) (Weighed streamCount unreal) (WebsocketTransport.send cfg message) :=
  growing_off.send fun _ => growing_perform (by cases t <;> rfl)

theorem growing_runForever (app : Nat) :
    Keeps (growing cfg (.runForever app)) (Weighed streamCount unreal)
      (WebSocketApp.runForever cfg app) := by
  have hdispatch : Connection.KeepsDispatch (growing cfg (.runForever app))
      (Weighed streamCount unreal) :=
    { calls := ⟨fun _ => growing_modify fun _ => le_rfl, fun _ _ => growing_perform rfl⟩
      dispatched := fun _ => growing_modify fun _ => le_rfl
      unregister := fun _ => growing_modify fun _ => le_rfl
      event := fun _ _ => growing_perform rfl
      error := fun _ => growing_perform rfl }
  have hmessage : ∀ raw, Keeps (growing cfg (.runForever app)) (Weighed streamCount unreal)
      (WebSocketApp.handle cfg app (.message raw)) := fun raw =>
    Keeps.bind (growing_off.toOffSocket.callback (WebsocketTransport.keeps_onMessage
      (growing_off.toOffSocket.receive (fun _ => growing_modify fun _ => le_rfl)
        fun _ _ => growing_modify fun _ => le_rfl)
      fun _ => Connection.keeps_onMessage (fun _ => Connection.keeps_dispatch hdispatch)
        (growing_off.toOffSocket.stop _))) fun _ => .pure _
  exact growing_off.runForever (growing_off.toOffSocket.round growing_send
    (fun _ _ _ h _ => h.tail) (fun _ _ h => h.cons (Nat.zero_le _))
    (fun raw s P h hinv _ => hmessage raw s P h hinv.tail) (growing_modify fun _ => le_rfl))

theorem growing_body (t : Activity) :
    Keeps (growing cfg t) (Weighed streamCount unreal) (Hub.body cfg t) := by
  have hregister : ∀ handler, Keeps (growing cfg t) (Weighed streamCount unreal)
      (Connection.register handler) := fun _ =>
    Connection.keeps_register (growing_modify fun _ => le_rfl) (growing_modify fun _ => le_rfl)
  have hothers : KeepsOthers (growing cfg t) (Weighed streamCount unreal) cfg :=
    { send := growing_send
      sleep := fun _ => growing_perform (by cases t <;> rfl)
      acquire := fun _ => growing_perform (by cases t <;> rfl)
      modify := fun hf => growing_modify fun s => (congrArg (·.streams.length) (hf s)).ge }
  cases t with
  | start =>
      exact keeps_once (Keeps.bind (growing_modify fun _ => le_rfl) fun _ => growing_off.start)
  | stop =>
      exact keeps_once (Keeps.finally_ (growing_off.toOffSocket.stop _)
        (growing_modify fun _ => le_rfl))
  | send method arguments onInvocation invocationId uuid =>
      exact keeps_once (Connection.keeps_send (growing_modify fun _ => le_rfl)
        (Connection.keeps_refreshTokenMaybe (growing_perform rfl)
          fun _ => growing_modify fun _ => le_rfl)
        (fun _ _ => Connection.keeps_sendList hregister fun _ _ => growing_send _)
        fun _ _ => Keeps.bind (growing_modify fun _ => le_rfl) fun _ => hothers.subject.start)
  | stream event eventParams uuid =>
      exact keeps_once (Connection.keeps_stream (growing_modify fun _ => le_rfl)
        (growing_modify fun s => by simp [streamCount]) hregister fun _ _ => growing_send _)
  | subscribe object callbacks =>
      exact keeps_once (StreamHandler.keeps_subscribeObject
        fun _ => growing_modify fun s => by simp [streamCount])
  | runForever app => exact growing_runForever app
  | _ => exact hothers.body rfl

theorem hub_growing : Growing (hub cfg) streamCount unreal where
  toProof := by
    have henter : KeepsEntering .any (Weighed streamCount unreal) :=
      { inv := fun _ _ _ h => h
        start := fun _ _ _ _ h => h
        resume := fun _ _ _ _ _ _ h => h }
    apply Hub.proof henter
    · simp [Weighed]
    · exact fun s P t h _ _ => h.cons (Nat.zero_le _)
    · intro s P t h _
      exact ends_of_wp (fun _ _ h => h.cons (Nat.zero_le _)) (growing_body t s P [] h.tail)
  ready := fun _ => rfl
  every := fun n => ⟨.blocked .start (.event n), rfl⟩

/-! ## The calls that change the objects -/

namespace Serviceable

/-- A handler of an object that exists is registered. -/
theorem register (h : Serviceable s) {handler : Handler}
    (hobject : ∀ object invocationId, handler = .stream object invocationId →
      object < s.streams.length) : Serviceable (registering handler s) := by
  refine ⟨h.functions, ?_⟩
  intro object invocationId hmem
  rcases List.mem_append.mp hmem with hmem | hmem
  · exact h.objects object invocationId hmem
  · exact hobject object invocationId (List.mem_singleton.mp hmem).symm

/-- A new object has functions. -/
theorem streams (h : Serviceable s) (event uuid : String) :
    Serviceable { s with streams := s.streams ++ [StreamHandler.new event uuid] } := by
  constructor
  · intro handler hmem
    rcases List.mem_append.mp hmem with hmem | hmem
    · exact h.functions handler hmem
    · rw [List.mem_singleton.mp hmem]
      rfl
  · intro object invocationId hmem
    have hlt := h.objects object invocationId hmem
    simp only [List.length_append, List.length_singleton]
    omega

/-- An object gets functions. -/
theorem subscribe (h : Serviceable s) {object : Nat} {handler : StreamHandler}
    (hcallable : handler.isCallable = true) :
    Serviceable { s with streams := s.streams.set object handler } := by
  constructor
  · intro other hmem
    rcases List.mem_or_eq_of_mem_set hmem with hmem | rfl
    · exact h.functions other hmem
    · exact hcallable
  · intro object' invocationId hmem
    rw [List.length_set]
    exact h.objects object' invocationId hmem

theorem filter (h : Serviceable s) (select : Handler → Bool) :
    Serviceable { s with streamHandlers := s.streamHandlers.filter select } :=
  ⟨h.functions, fun object invocationId hmem =>
    h.objects object invocationId (List.mem_filter.mp hmem).1⟩

end Serviceable

/-- What the calls that change the objects have to keep. -/
structure KeepsObjects (R : HubRely) (I : HubInv) (cfg : Config) : Prop
    extends KeepsOthers R I cfg where
  auth : Keeps R I (authFunction .send)
  token : ∀ token, Keeps R I (Connection.setToken token)
  ids : ∀ id, Keeps R I (record fun h => { h with ids := h.ids ++ [id] })
  register : ∀ {s P} handler, (∀ object invocationId, handler = .stream object invocationId →
    object < s.streams.length) → I s P → I (registering handler s) P
  create : ∀ {s P} event uuid, I s P →
    I { s with streams := s.streams ++ [StreamHandler.new event uuid] } P
  subscribe : ∀ {s P} object handler, handler.isCallable = true → I s P →
    I { s with streams := s.streams.set object handler } P

namespace KeepsObjects

theorem callSend (hkeeps : KeepsObjects R I cfg) {method : Value} {arguments : Arguments}
    {onInvocation : Option Nat} {invocationId : Option String} {uuid : String} :
    Keeps R I (Connection.send cfg method arguments onInvocation invocationId uuid) := by
  have hregister : ∀ callback, Keeps R I
      (Connection.register (.invocation (invocationId.getD uuid) callback)) := by
    intro callback s P h hI
    exact hkeeps.register (.invocation (invocationId.getD uuid) callback) (by simp) hI
  apply Connection.keeps_send (hkeeps.ids _)
  · exact Connection.keeps_refreshTokenMaybe hkeeps.auth hkeeps.token
  · exact fun items _ => Keeps.bind .get fun _ => Keeps.bind (keeps_elim (.pure _) hregister)
      fun _ => hkeeps.send _
  · exact fun subject _ => Keeps.bind (hkeeps.modify fun _ => rfl) fun _ => hkeeps.subject.start

/-- The object is created before its handler is registered. -/
theorem stream (hkeeps : KeepsObjects R I cfg) {event uuid : String} {eventParams : Value} :
    Keeps R I (Connection.stream cfg event eventParams uuid) := by
  refine Keeps.bind (hkeeps.ids uuid) fun _ => ?_
  intro s P h hI
  unfold Connection.register record
  simp only [wp_bind, wp_modify, wp_get]
  apply hkeeps.send
  have hcreated := hkeeps.create event uuid hI
  refine hkeeps.register (.stream s.streams.length uuid) ?_ hcreated
  rintro object invocationId ⟨⟩
  simp

theorem subscribeObject (hkeeps : KeepsObjects R I cfg) {object : Nat}
    {callbacks : SubscribeCallback} (hsound : callbacks.isSound = true) :
    Keeps R I (StreamHandler.subscribeObject object callbacks) := by
  apply Keeps.get_bind
  intro s P h hI
  cases hget : s.streams[object]? with
  | none => exact hI
  | some handler =>
      rw [Option.elim_some, wp_bind, wp_ofExcept]
      cases hresult : handler.subscribe callbacks with
      | error e => exact hI
      | ok handler' =>
          exact hkeeps.subscribe object handler'
            (StreamHandler.isCallable_of_subscribe hsound hresult) hI

/-- Everything but the transport's own activities. -/
theorem body (hkeeps : KeepsObjects R I cfg) {t : Activity} (hsound : t.isSound = true)
    (hstart : t ≠ .start) (hstop : t ≠ .stop) (hrun : ∀ app, t ≠ .runForever app) :
    Keeps R I (Hub.body cfg t) := by
  cases t with
  | start => exact absurd rfl hstart
  | stop => exact absurd rfl hstop
  | send method arguments onInvocation invocationId uuid => exact keeps_once hkeeps.callSend
  | stream event eventParams uuid => exact keeps_once hkeeps.stream
  | subscribe object callbacks => exact keeps_once (hkeeps.subscribeObject hsound)
  | runForever app => exact absurd rfl (hrun app)
  | _ => exact hkeeps.toKeepsOthers.body rfl

end KeepsObjects

/-! ## The calls of `on_message` -/

/-- A function that `on_message` calls. -/
def Callback.isDispatched : Callback → Bool
  | .onError _ | .event .. | .handler .. => true
  | _ => false

/-- What `on_message` relies on, and what is known where a function raises. -/
structure ExitsDispatch (R : HubRely) (I : HubInv) (F : Exc → HubInv) : Prop where
  serviceable : ∀ {s P}, I s P → Serviceable s
  recorded : ∀ {s P} calls table, I s P →
    I { s with history := { s.history with calls, table } } P
  unregistered : ∀ {s P} select, I s P →
    I { s with streamHandlers := s.streamHandlers.filter select } P
  block : ∀ {s P callback}, callback.isDispatched = true → I s P →
    R.inv s (.blocked R.me (.callback callback) ::ₘ P)
  resume : ∀ {s P callback r}, callback.isDispatched = true →
    R.inv s (.blocked R.me (.callback callback) ::ₘ P) → R.resume s P (.callback callback) r →
      I s P ∧ ∀ e, r = .error e → F e s P
  stop : Exits streamCount R I (fun _ => I) F (Connection.stop .closeMessage)

/-- The objects of the handlers that a message has selected exist. -/
structure Firing (I : HubInv) (fired : List Handler) (s : State)
    (P : Multiset (Label Op Activity)) : Prop where
  holds : I s P
  exist : ∀ object invocationId, .stream object invocationId ∈ fired → object < streamCount s

namespace ExitsDispatch

variable {fired : List Handler} {callback : Callback}

theorem call (rule : ExitsDispatch R I F) (hcallback : callback.isDispatched = true) :
    Exits streamCount R I (fun _ => I) F (GeventSignalR.call callback) := by
  apply Exits.perform
  · exact fun _ _ hI => rule.block hcallback hI
  · exact fun _ _ _ _ _ _ _ hinv hres => (rule.resume hcallback hinv hres).1
  · exact fun _ _ _ _ _ e _ hinv hres => (rule.resume hcallback hinv hres).2 e rfl

/-- A function is called, and the objects still exist when it returns. -/
theorem apply (rule : ExitsDispatch R I F) {f : Function} {handlerCall : HandlerCall}
    (hf : f.isCallable = true) :
    Exits streamCount R (Firing I fired) (fun _ => Firing I fired) F (f.apply handlerCall) := by
  have hrecord : Exits streamCount R (Firing I fired) (fun _ => Firing I fired) F
      (record fun h => { h with calls := h.calls ++ [(f, handlerCall)] }) :=
    Exits.modify fun s P hF => ⟨rule.recorded _ _ hF.holds, hF.exist⟩
  refine Exits.bind hrecord fun _ => ?_
  cases f with
  | default => exact Exits.pure _ fun _ _ hF => hF
  | notCallable => cases hf
  | user callback =>
      apply Exits.perform
      · exact fun s P hF => rule.block rfl hF.holds
      · -- other greenlets ran, and none of them has deleted an object
        intro s P hF s' P' _ hm hinv hres
        refine ⟨(rule.resume rfl hinv hres).1, fun object invocationId hmem => ?_⟩
        exact (hF.exist object invocationId hmem).trans_le hm
      · exact fun s P _ s' P' e _ hinv hres => (rule.resume rfl hinv hres).2 e rfl

theorem streamCallback (rule : ExitsDispatch R I F) {object : Nat} {invocationId : String}
    {member : StreamHandler → Function} {handlerCall : HandlerCall}
    (hmem : .stream object invocationId ∈ fired)
    (hmember : ∀ handler, handler.isCallable = true → (member handler).isCallable = true) :
    Exits streamCount R (Firing I fired) (fun _ => Firing I fired) F
      (Connection.streamCallback object member >>= fun f => f.apply handlerCall) := by
  let J : Function → HubInv := fun f s P => f.isCallable = true ∧ Firing I fired s P
  apply Exits.bind (J := J)
  · apply Exits.get_bind
    intro s
    cases hget : s.streams[object]? with
    | none =>
        apply Exits.raise
        rintro s' P ⟨rfl, hF⟩
        have hlt := hF.exist object invocationId hmem
        rw [List.getElem?_eq_none_iff] at hget
        exact absurd hlt (not_lt.mpr hget)
    | some handler =>
        apply Exits.pure
        rintro s' P ⟨rfl, hF⟩
        have hfunctions := (rule.serviceable hF.holds).functions
        exact ⟨hmember handler (hfunctions handler (List.mem_of_getElem? hget)), hF⟩
  · rintro f s P h ⟨hf, hF⟩
    exact rule.apply hf s P h hF

theorem callNext (rule : ExitsDispatch R I F) {item : Value} {handler : Handler}
    (hmem : handler ∈ fired) (hstream : handler.isStream = true) :
    Exits streamCount R (Firing I fired) (fun _ => Firing I fired) F
      (Connection.callNext item handler) := by
  cases handler with
  | invocation invocationId callback => cases hstream
  | stream object invocationId =>
      apply rule.streamCallback hmem
      intro handler hcallable
      simp only [StreamHandler.isCallable, Bool.and_eq_true] at hcallable
      exact hcallable.1.1

theorem callComplete (rule : ExitsDispatch R I F) {message : Message} {handler : Handler}
    (hmem : handler ∈ fired) :
    Exits streamCount R (Firing I fired) (fun _ => Firing I fired) F
      (Connection.callComplete message handler) := by
  cases handler with
  | invocation invocationId callback => exact rule.apply rfl
  | stream object invocationId =>
      apply rule.streamCallback hmem
      intro handler hcallable
      simp only [StreamHandler.isCallable, Bool.and_eq_true] at hcallable
      exact hcallable.1.2

theorem callError (rule : ExitsDispatch R I F) {message : Message} {handler : Handler}
    (hmem : handler ∈ fired) (hstream : handler.isStream = true) :
    Exits streamCount R (Firing I fired) (fun _ => Firing I fired) F
      (Connection.callError message handler) := by
  cases handler with
  | invocation invocationId callback => cases hstream
  | stream object invocationId =>
      apply rule.streamCallback hmem
      intro handler hcallable
      simp only [StreamHandler.isCallable, Bool.and_eq_true] at hcallable
      exact hcallable.2

/-- The handlers that are selected are registered. -/
theorem selectHandlers (rule : ExitsDispatch R I F) {message : Message} {select : Handler → Bool} :
    Exits streamCount R I (fun fired s P => (∀ h ∈ fired, select h = true) ∧ Firing I fired s P) F
      (Connection.selectHandlers message select) := by
  have hrecord : Exits streamCount R I (fun _ => I) F
      (record fun h => { h with table := h.table ++ [.dispatched message] }) :=
    Exits.modify fun s P hI => rule.recorded _ _ hI
  refine Exits.bind hrecord fun _ => Exits.get_bind fun s => ?_
  apply Exits.pure
  rintro s' P ⟨rfl, hI⟩
  refine ⟨fun h hmem => (List.mem_filter.mp hmem).2, hI, ?_⟩
  intro object invocationId hmem
  exact (rule.serviceable hI).objects object invocationId (List.mem_filter.mp hmem).1

/-- The handlers that a message is for get their calls. -/
theorem each {select : Handler → Bool} {f : Handler → Hub Unit}
    (hf : ∀ h ∈ fired, select h = true →
      Exits streamCount R (Firing I fired) (fun _ => Firing I fired) F (f h)) :
    Exits streamCount R (fun s P => (∀ h ∈ fired, select h = true) ∧ Firing I fired s P)
      (fun _ => I) F (Prog.each fired f) := by
  intro s P h hs
  obtain ⟨hselect, hF⟩ := hs
  have heach : Exits streamCount R (Firing I fired) (fun _ => Firing I fired) F
      (Prog.each fired f) :=
    Exits.each fun h hmem => hf h hmem (hselect h hmem)
  exact heach.mono (fun _ _ hF => hF) (fun _ _ _ hF => hF.holds) (fun _ _ _ hF => hF) s P h hF

theorem unregister (rule : ExitsDispatch R I F) {invocationId : Value} :
    Exits streamCount R I (fun _ => I) F (Connection.unregister invocationId) :=
  Exits.modify fun _ _ hI => rule.unregistered _ hI

theorem reportError (rule : ExitsDispatch R I F) {message : Message} {error : Value}
    (hsized : error.isNone = true ∨ error.len.isOk = true) :
    Exits streamCount R I (fun _ => I) F (Connection.reportError message error) := by
  refine Exits.when (fun hsome => ?_) fun _ _ _ hI => hI
  refine Exits.bind (J := fun _ => I) (Exits.ofExcept ?_ ?_) fun length =>
    Exits.get_bind fun s => Exits.when (fun _ => ?_) ?_
  · exact fun _ _ _ _ hI => hI
  · intro e he
    rcases hsized with hnone | hok
    · simp [hnone] at hsome
    · rw [he] at hok
      cases hok
  · apply (rule.call rfl).of_weaker
    rintro s' P ⟨rfl, hI⟩
    exact hI
  · rintro - s' P ⟨rfl, hI⟩
    exact hI

/-- A message whose error has a length raises nothing but what the functions raise. -/
theorem dispatch (rule : ExitsDispatch R I F) {message : Message}
    (hsized : message.isSized = true) :
    Exits streamCount R I (fun _ => I) F (Connection.dispatch message) := by
  cases message with
  | invocation headers invocationId target arguments =>
      refine Exits.get_bind fun s => Exits.of_weaker (I := I) ?_ ?_
      · exact Exits.each fun _ _ => rule.call rfl
      · rintro s' P ⟨rfl, hI⟩
        exact hI
  | completion headers invocationId result error =>
      have herror : error.isNone = true ∨ error.len.isOk = true := by
        simpa [Message.isSized] using hsized
      exact Exits.bind (rule.reportError herror) fun _ =>
        Exits.bind rule.selectHandlers fun fired =>
          Exits.bind (each fun _ hmem _ => rule.callComplete hmem) fun _ => rule.unregister
  | streamItem headers invocationId item =>
      refine Exits.bind rule.selectHandlers fun fired => each fun h hmem hselect => ?_
      rw [Bool.and_eq_true] at hselect
      exact rule.callNext hmem hselect.1
  | cancelInvocation headers invocationId =>
      refine Exits.bind rule.selectHandlers fun fired => Exits.bind (each ?_) fun _ =>
        rule.unregister
      intro h hmem hselect
      rw [Bool.and_eq_true] at hselect
      exact rule.callError hmem hselect.1
  | _ => exact Exits.pure _ fun _ _ hI => hI

/-- A batch of messages. -/
theorem onMessage (rule : ExitsDispatch R I F) {messages : List Message}
    (hsized : ∀ message ∈ messages, message.isSized = true) :
    Exits streamCount R I (fun _ => I) F (Connection.onMessage messages) := by
  induction messages with
  | nil => exact Exits.pure _ fun _ _ hI => hI
  | cons message messages ih =>
      have hrest := ih fun message hmem => hsized message (List.mem_cons_of_mem _ hmem)
      have hdispatch := rule.dispatch (hsized message (List.mem_cons_self ..))
      cases message with
      | close error => exact rule.stop
      | _ => exact Exits.bind hdispatch fun _ => hrest

end ExitsDispatch

end GeventSignalR
