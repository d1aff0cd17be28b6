import GeventSignalR.Hub.OpenState

/-!
# An open connection is connected

The greenlet of a websocket calls the functions of the user and handles what they raise.

* `exits_dispatch`: a message calls functions of objects that exist, which the greenlet remembers
  from one call to the next.
* `exits_callbackGoing`, `exits_callbackOver`: what becomes of an exception.
* `open_connected`: on steps that are `Warranted` an open connection is connected.
-/

namespace GeventSignalR

open Coop Coop.Prog WebsocketTransport

variable {cfg : Config} {t : Activity} {s s' : State} {P P' : Multiset (Label Op Activity)}
  {app : Nat} {e : Exc} {m : State → Nat}

/-! ## Dispatching -/

theorem Attested.serviceable (hA : Attested cfg s P) : Serviceable s :=
  ⟨hA.functions, hA.objects⟩

theorem exits_dispatch : ExitsDispatch (warranted cfg t) (Attested cfg) (Left cfg t) where
  serviceable := fun hA => hA.serviceable
  recorded := fun _ _ hA => hA.congr rfl rfl
  unregistered := fun select hA =>
    ⟨⟨hA.accepted, hA.handler, hA.functions, (hA.serviceable.filter select).objects⟩, hA.connected⟩
  block := fun _ hA => ⟨hA.toGrounded, hA.connected⟩
  resume := by
    intro s P callback r hcallback hinv hres
    have hA : Attested cfg s P := ⟨hinv.toGrounded, hinv.connected⟩
    refine ⟨hA, fun e hr => ⟨hA, fun hopen => ?_⟩⟩
    rw [← all_socketOf]
    have hallowed := hres.1.2 hopen
    rw [hr] at hallowed
    cases callback with
    | onOpen => cases hcallback
    | onClose site => cases hcallback
    | onReconnect => cases hcallback
    | onError message => exact hallowed
    | event callback arguments => exact hallowed
    | handler callback handlerCall => exact hallowed
  stop := (exits_stop_left (by decide)).mono (fun _ _ hA => hA) (fun _ _ _ hC => hC.attested)
    fun _ _ _ hL => hL

/-! ## Exceptions -/

/-- An assignment of `disconnected` leaves alone what does not depend on the state. -/
theorem exits_reportEnd {site : CloseSite} {I : HubInv} {F : Exc → HubInv}
    (hI : ∀ s s' P, I s P → openView s' = openView s → I s' P) :
    Exits m (warranted cfg t) I (fun _ => I) F (reportEnd site) := by
  refine Exits.get_bind fun s => Exits.ite (fun _ => ?_) fun _ => ?_
  · apply Exits.modify
    rintro s' P ⟨rfl, h⟩
    exact hI s' _ P h rfl
  · rw [setState_disconnected]
    apply Exits.modify
    rintro s' P ⟨rfl, h⟩
    exact hI s' _ P h rfl

/-- `on_socket_error` sets the state only if no function is registered, or behind a return that is
excluded. -/
theorem exits_onSocketError {site : CloseSite} {F : Exc → HubInv}
    (hok : ∀ s, mayResume cfg s t (.callback (.onClose site)) (.ok ()) = false)
    (herror : ∀ s P e, Attested cfg s P →
      (isOpen s = true → mayResume cfg s t (.callback (.onClose site)) (.error e) = true) →
        F e s P) :
    Exits m (warranted cfg t) (Covered cfg) (fun _ => Calm cfg) F (onSocketError site) := by
  refine Exits.get_bind fun s => Exits.bind (J := fun _ => Calm cfg) (Exits.when ?_ ?_) fun _ =>
    exits_reportEnd fun _ _ _ hC hs => hC.congr hs
  · intro _
    apply exits_perform
    · rintro s' P ⟨rfl, hC⟩
      exact hC.toAttested
    · intro s P _ hA hres
      refine hA.calm fun hopen => ?_
      have hreturns := hres hopen
      rw [hok] at hreturns
      cases hreturns
    · exact herror
  · rintro hnone s' P ⟨rfl, hC⟩
    refine hC.toAttested.calm fun hopen => ?_
    rw [hC.registered hopen] at hnone
    cases hnone

/-- An exception leaves a callback of a websocket that goes on. -/
theorem exits_callbackGoing {I : HubInv} {p : Hub Unit} (ht : socketOf t = some app)
    (hp : Exits m (warranted cfg t) I (fun _ => Attested cfg) (Left cfg t) p) :
    Exits m (warranted cfg t) I (fun _ => Attested cfg) (Breaking cfg app)
      (WebSocketApp.callback app false p) := by
  refine Exits.tryCatch hp fun e => Exits.ite (fun he => ?_) fun he => ?_
  · have herror : Exits m (warranted cfg t) (Covered cfg) (fun _ => Calm cfg) (Breaking cfg app)
        (onSocketError (.failed app false)) :=
      exits_onSocketError (fun _ => rfl) fun _ _ _ hA hres => ⟨hA, hres⟩
    refine herror.mono (fun s P hL => ?_) (fun _ _ _ hC => hC.attested) fun _ _ _ hB => hB
    refine ⟨hL.toAttested, fun hopen => ?_⟩
    simpa [mayLeave, he] using hL.allowed hopen app ht
  · apply Exits.raise
    intro s P hL
    refine ⟨hL.toAttested, fun hopen => ?_⟩
    have hallowed := hL.allowed hopen app ht
    simp only [mayLeave, he, Bool.false_eq_true, if_false] at hallowed
    rw [mayEnd, hallowed, Bool.or_true]

/-- The end of a websocket may be reported: if another one is open, `on_close` is called first. -/
structure Parting (cfg : Config) (app : Nat) (s : State) (P : Multiset (Label Op Activity)) : Prop
    extends Attested cfg s P where
  own : isOpen s = true → s.onClose = true ∨ s.ws = some app

theorem Breaking.parting (hB : Breaking cfg app e s P) (he : e.isException = true) :
    Parting cfg app s P := by
  refine ⟨hB.toAttested, fun hopen => ?_⟩
  simpa [mayEnd, he] using hB.allowed hopen

theorem exits_failedOver :
    Exits m (warranted cfg t) (Parting cfg app) (fun _ => Leaving cfg app)
      (fun _ s P => Parting cfg app s P ∧ Leaving cfg app s P)
      (onSocketError (.failed app true)) := by
  have hown : ∀ (s : State) (r : Except Exc Unit),
      mayResume cfg s t (.callback (.onClose (.failed app true))) r = true → s.ws = some app := by
    intro s r hres
    cases r <;> simpa [mayResume] using hres
  refine Exits.get_bind fun s => Exits.bind (J := fun _ => Leaving cfg app) (Exits.when ?_ ?_)
    fun _ => exits_reportEnd fun _ _ _ hL hs => hL.congr hs
  · intro _
    apply exits_perform
    · rintro s' P ⟨rfl, hparting⟩
      exact hparting.toAttested
    · exact fun s P r hA hres => ⟨hA.toGrounded, fun hopen => hown s _ (hres hopen)⟩
    · intro s P e hA hres
      have hL : isOpen s = true → s.ws = some app := fun hopen => hown s _ (hres hopen)
      exact ⟨⟨hA, fun hopen => .inr (hL hopen)⟩, hA.toGrounded, hL⟩
  · rintro hnone s' P ⟨rfl, hparting⟩
    refine ⟨hparting.toGrounded, fun hopen => ?_⟩
    simpa [hnone] using hparting.own hopen

/-- An exception leaves a callback of a websocket that is over. -/
theorem exits_callbackOver {I J : HubInv} {F : Exc → HubInv} {p : Hub Unit}
    (hp : Exits m (warranted cfg t) I (fun _ => J) F p)
    (hparting : ∀ e s P, e.isException = true → F e s P → Parting cfg app s P)
    (hraise : ∀ e s P, F e s P → J s P) (hJ : ∀ s P, Leaving cfg app s P → J s P) :
    Exits m (warranted cfg t) I (fun _ => J) (fun _ => J) (WebSocketApp.callback app true p) := by
  refine Exits.tryCatch hp fun e => Exits.ite (fun he => ?_) fun _ => Exits.raise (hraise e)
  exact exits_failedOver.mono (fun s P h => hparting e s P he h) (fun _ s P hL => hJ s P hL)
    fun _ s P hL => hJ s P hL.2

/-! ## The handshake -/

theorem exits_setConnected {N : State → Prop} {F : Exc → HubInv}
    (hN : ∀ s s', N s → openView s' = openView s → N s') :
    Exits m (warranted cfg t) (fun s _ => Grounded cfg s ∧ N s)
      (fun _ s _ => (Grounded cfg s ∧ N s) ∧ s.state = .connected) F (setState .connected) := by
  let K : HubInv := fun s _ => (Grounded cfg s ∧ N s) ∧ s.state = .connected
  have hstate : Exits m (warranted cfg t) (fun s _ => Grounded cfg s ∧ N s) (fun _ => K) F
      (modify fun s => { s with
        state := .connected, history := { s.history with ownState := .connected } }) :=
    Exits.modify fun s _ h => ⟨⟨h.1.congr rfl, hN s _ h.2 rfl⟩, rfl⟩
  refine Exits.bind hstate fun _ => Exits.when (fun _ => ?_) fun _ _ _ h => h
  exact Exits.modify fun s _ h => ⟨⟨h.1.1.congr rfl, hN s _ h.1.2 rfl⟩, h.2⟩

theorem exits_handshakeDone {F : Exc → HubInv} :
    Exits m (warranted cfg t) (Attested cfg) (fun _ => Attested cfg) F handshakeDone := by
  refine Exits.get_bind fun s => Exits.of_weaker (I := Attested cfg) ?_ ?_
  · refine Exits.when (fun _ => Exits.bind exits_setHandler fun _ => Exits.when (fun _ => ?_) ?_) ?_
    · exact Exits.bind (exits_modify (fun _ => rfl) fun _ => rfl) fun _ =>
        Exits.fork fun _ _ hA => hA.congr rfl rfl
    · exact fun _ _ _ hA => hA
    · exact fun _ _ _ hA => hA
  · rintro s' P ⟨rfl, hA⟩
    exact hA

/-- The websocket, which exists, is accepted, and the state is set. -/
theorem exits_acceptHandshake {F : Exc → HubInv} :
    Exits m (warranted cfg t) (fun s P => Attested cfg s P ∧ app < s.apps.length)
      (fun _ => Attested cfg) F (acceptHandshake app) := by
  have hlength : ∀ s s' : State, app < s.apps.length → openView s' = openView s →
      app < s'.apps.length := by
    intro s s' happ hs
    have hgoing : s'.apps.map (·.isGoing) = s.apps.map (·.isGoing) := congrArg (·.2.2.1) hs
    have hsame : s'.apps.length = s.apps.length := by simpa using congrArg List.length hgoing
    rwa [hsame]
  have hreceived : Exits m (warranted cfg t) (fun s P => Attested cfg s P ∧ app < s.apps.length)
      (fun _ s _ => Grounded cfg s ∧ app < s.apps.length) F (setHandshakeReceived true) :=
    Exits.modify fun s P h => ⟨h.1.toGrounded.congr rfl, h.2⟩
  refine Exits.bind hreceived fun _ => Exits.bind (exits_setConnected hlength) fun _ =>
    Exits.get_bind fun s => Exits.bind (J := fun _ => Attested cfg) (Exits.modify ?_) fun _ =>
      exits_handshakeDone
  rintro s' P ⟨rfl, ⟨hG, happ⟩, hstate⟩
  refine Attested.of_connected ⟨?_, hG.handler, hG.functions, hG.objects⟩ hstate
  intro other hmem
  rcases List.mem_append.mp hmem with hmem | hmem
  · exact hG.accepted other hmem
  · rw [List.mem_singleton.mp hmem]
    exact happ

/-- A rejected handshake response closes the websocket. -/
theorem exits_rejectHandshake :
    Exits m (warranted cfg t) (Covered cfg) (fun _ => Calm cfg) (Left cfg t)
      rejectHandshake := by
  have hrecord : Exits m (warranted cfg t) (Covered cfg) (fun _ => Covered cfg) (Left cfg t)
      (record fun h => { h with established := false }) :=
    Exits.modify fun s P hC => ⟨hC.toAttested.congr rfl rfl, hC.registered⟩
  have hws : Exits m (warranted cfg t) (Covered cfg) (fun _ => Covered cfg) (Left cfg t) ws := by
    apply Exits.get_bind
    intro s
    cases hws : s.ws with
    | none =>
        apply Exits.raise
        rintro s' P ⟨rfl, hC⟩
        have hcalm : Calm cfg s' P := hC.toAttested.calm (by simp [isOpen_of_ws hws])
        exact hcalm.left
    | some app =>
        apply Exits.pure
        rintro s' P ⟨rfl, hC⟩
        exact hC
  have herror : Exits m (warranted cfg t) (Covered cfg) (fun _ => Calm cfg) (Left cfg t)
      (onSocketError .rejected) := by
    apply exits_onSocketError fun _ => rfl
    intro s P e hA hres
    refine ⟨hA, fun hopen => ?_⟩
    rw [← all_socketOf]
    exact hres hopen
  have hstop : Exits m (warranted cfg t) (Calm cfg) (fun _ => Calm cfg) (Left cfg t)
      (stop .rejected) := (exits_stop_left (by decide)).of_weaker fun _ _ hC => hC.attested
  refine Exits.bind hrecord fun _ => Exits.bind hws fun _ => Exits.bind herror fun _ =>
    Exits.bind hstop fun _ => ?_
  rw [setState_disconnected]
  exact exits_calm fun _ => rfl

theorem exits_reportOpen :
    Exits m (warranted cfg t) (Attested cfg) (fun _ => Attested cfg) (Left cfg t)
      reportOpen := by
  have hstate : Exits m (warranted cfg t) (Attested cfg) (fun _ => Attested cfg) (Left cfg t)
      (setState .connected) :=
    (exits_setConnected (N := fun _ => True) fun _ _ _ _ => trivial).mono
      (fun _ _ hA => ⟨hA.toGrounded, trivial⟩) (fun _ _ _ h => .of_connected h.1.1 h.2)
      fun _ _ _ hL => hL
  refine Exits.get_bind fun s => Exits.of_weaker (I := Attested cfg) ?_ ?_
  · refine Exits.when (fun _ => Exits.bind hstate fun _ => ?_) fun _ _ _ hA => hA
    exact Exits.bind (exits_modify (fun _ => rfl) fun _ => rfl) fun _ =>
      exits_call (fun _ _ hA => hA) fun _ _ => rfl
  · rintro s' P ⟨rfl, hA⟩
    exact hA

/-! ## Frames -/

/-- A websocket that exists takes up a frame: if the connection is open and no function is
registered, it can be read. -/
structure Arriving (cfg : Config) (app : Nat) (raw : Raw) (handshakeReceived : Bool) (s : State)
    (P : Multiset (Label Op Activity)) : Prop extends Attested cfg s P where
  here : app < s.apps.length
  readable : isOpen s = true → s.onClose = true ∨ isReadable cfg raw handshakeReceived = true

variable {raw : Raw}

/-- What cannot be decoded is an `Exception`, for which `on_close` is called. -/
theorem Arriving.left {received : Bool} (hA : Arriving cfg app raw received s P)
    (hraw : isReadable cfg raw received = false) (he : e.isException = true) :
    Left cfg t e s P := by
  refine ⟨hA.toAttested, fun hopen app' _ => ?_⟩
  simpa [mayLeave, he, hraw] using hA.readable hopen

theorem exits_evaluateHandshake (hsized : isSizedFrame cfg raw = true) :
    Exits m (warranted cfg t) (Arriving cfg app raw false)
      (fun messages s P => (∀ message ∈ messages, message.isSized = true) ∧ Attested cfg s P)
      (Left cfg t) (evaluateHandshake cfg app raw) := by
  let J : HandshakeResponseMessage × List Message → HubInv := fun response s P =>
    cfg.protocol.decodeHandshake raw = .ok response ∧ Arriving cfg app raw false s P
  refine Exits.bind (J := J) (Exits.ofExcept ?_ ?_) fun response => ?_
  · exact fun response hdecode s P hA => ⟨hdecode, hA⟩
  · intro e hdecode s P hA
    apply hA.left
    · simp [isReadable, hdecode, Except.toOption]
    · exact cfg.protocol.decode_exception hdecode
  · rintro s P h ⟨hdecode, hA⟩
    have hmessages : ∀ message ∈ response.2, message.isSized = true :=
      isSized_of_response hsized hdecode
    have hjudge : Exits m (warranted cfg t) (Arriving cfg app raw false) (fun _ => Attested cfg)
        (Left cfg t) (judge app response.1) := by
      refine Exits.ite (fun _ => ?_) fun hrejected => ?_
      · exact exits_acceptHandshake.of_weaker fun _ _ hA => ⟨hA.toAttested, hA.here⟩
      · refine exits_rejectHandshake.mono (fun s P hA => ⟨hA.toAttested, fun hopen => ?_⟩)
          (fun _ _ _ hC => hC.attested) fun _ _ _ hL => hL
        simpa [isReadable, hdecode, Except.toOption, hrejected] using hA.readable hopen
    exact Exits.bind hjudge (fun _ => Exits.pure _ fun _ _ hA => ⟨hmessages, hA⟩) s P h hA

theorem exits_receive (hsized : isSizedFrame cfg raw = true) :
    Exits m (warranted cfg t) (fun s P => Arriving cfg app raw s.handshakeReceived s P)
      (fun messages s P => (∀ message ∈ messages, message.isSized = true) ∧ Attested cfg s P)
      (Left cfg t) (receive cfg app raw) := by
  refine Exits.get_bind fun s =>
    Exits.bind (J := fun _ => Arriving cfg app raw s.handshakeReceived) (Exits.modify ?_) fun _ => ?_
  · rintro s' P ⟨rfl, hA⟩
    exact ⟨hA.toAttested.congr rfl rfl, hA.here, hA.readable⟩
  · unfold interpret
    cases s.handshakeReceived with
    | false =>
        refine Exits.bind (exits_evaluateHandshake hsized) fun messages => ?_
        rintro s P h ⟨hmessages, hA⟩
        exact Exits.bind exits_reportOpen
          (fun _ => Exits.pure _ fun _ _ hA => ⟨hmessages, hA⟩) s P h hA
    | true =>
        apply Exits.ofExcept
        · intro messages hparse s P hA
          exact ⟨isSized_of_messages hsized hparse, hA.toAttested⟩
        · intro e hparse s P hA
          apply hA.left
          · simp [isReadable, hparse, Except.isOk, Except.toBool]
          · exact cfg.protocol.parse_exception hparse

theorem exits_frame (hsized : isSizedFrame cfg raw = true) :
    Exits streamCount (warranted cfg t)
      (fun s P => Arriving cfg app raw s.handshakeReceived s P) (fun _ => Attested cfg)
      (Left cfg t) (onMessage cfg app raw) := by
  refine Exits.bind (exits_receive hsized) fun messages => ?_
  rintro s P h ⟨hmessages, hA⟩
  exact exits_dispatch.onMessage hmessages s P h hA

/-! ## The greenlet of a websocket -/

/-- What the websocket does is taken up. -/
structure Happening (cfg : Config) (app : Nat) (event : WsEvent) (s : State)
    (P : Multiset (Label Op Activity)) : Prop extends Attested cfg s P where
  here : app < s.apps.length
  sized : ∀ raw, event = .message raw → isSizedFrame cfg raw = true
  raised : ∀ e, event = .failed e → e.isException = true
  allowed : isOpen s = true →
    mayResume cfg s (.runForever app) (.event app) (.ok event) = true

theorem exits_nextEvent :
    Exits m (warranted cfg (.runForever app)) (Attested cfg) (Happening cfg app)
      (Breaking cfg app) (WebSocketApp.nextEvent app) := by
  apply Exits.perform
  · exact fun s P hA => ⟨hA.toGrounded, hA.connected⟩
  · intro _ _ _ s P event _ hA hres
    obtain ⟨a, hget, hpossible⟩ := Hub.possible_event hres.2
    refine ⟨⟨hA.toGrounded, hA.connected⟩, (List.getElem?_eq_some_iff.mp hget).1, ?_, ?_, hres.1.2⟩
    · rintro raw rfl
      exact hres.1.1 raw rfl
    · rintro e rfl
      simp only [Hub.isPossible, Bool.and_eq_true] at hpossible
      exact hpossible.2
  · exact fun _ _ _ s P e _ hA hres => ⟨⟨hA.toGrounded, hA.connected⟩, hres.1.2⟩

/-- What is known behind a round: there is another one, or the websocket is over. -/
def Rounded (cfg : Config) (app : Nat) (another : Bool) : HubInv :=
  if another then Attested cfg else Leaving cfg app

theorem exits_handle {event : WsEvent} :
    Exits streamCount (warranted cfg (.runForever app)) (Happening cfg app event)
      (Rounded cfg app) (Breaking cfg app) (WebSocketApp.handle cfg app event) := by
  cases event with
  | opened =>
      have hopened : Exits streamCount (warranted cfg (.runForever app))
          (Happening cfg app .opened) (fun _ => Attested cfg) (Breaking cfg app)
          (setApp app fun a => { a with opened := true }) := by
        apply Exits.modify
        intro s P hH
        have hA : Attested cfg (settingApp app (fun a => { a with opened := true }) s) P :=
          hH.toAttested.congr (openView_settingApp fun _ => rfl) rfl
        exact hA
      -- the handshake request can be encoded
      have hmessage : ∀ e, cfg.protocol.encode (.handshake cfg.protocol.handshakeMessage) =
          .error e → socketOf (.runForever app) = none := by
        intro e he
        obtain ⟨raw, hraw⟩ := cfg.protocol.encode_handshake
        rw [hraw] at he
        cases he
      exact Exits.bind hopened fun _ =>
        Exits.bind (exits_callbackGoing rfl (exits_send hmessage)) fun _ =>
          Exits.pure _ fun _ _ hA => hA
  | message raw =>
      have hframe : Exits streamCount (warranted cfg (.runForever app))
          (Happening cfg app (.message raw)) (fun _ => Attested cfg)
          (Left cfg (.runForever app)) (onMessage cfg app raw) := by
        intro s P h hH
        apply exits_frame (hH.sized raw rfl)
        refine ⟨hH.toAttested, hH.here, fun hopen => ?_⟩
        simpa [mayResume] using hH.allowed hopen
      exact Exits.bind (exits_callbackGoing rfl hframe) fun _ => Exits.pure _ fun _ _ hA => hA
  | failed e =>
      have hsilent : Exits streamCount (warranted cfg (.runForever app))
          (Happening cfg app (.failed e)) (fun _ => Breaking cfg app e) (Breaking cfg app)
          (setApp app fun a => { a with silent := true }) := by
        apply Exits.modify
        intro s P hH
        have hends : ∀ a : App, ({ a with silent := true } : App).isGoing = false := fun a => by
          simp [App.isGoing]
        refine ⟨hH.toAttested.ends hends, fun hopen => ?_⟩
        obtain ⟨hbefore, hother⟩ := isOpen_settingApp hends hopen
        have hallowed : s.onClose = true ∨ s.ws = some app := by
          simpa [mayResume] using hH.allowed hbefore
        -- another websocket is open, so that `on_close` comes first
        have hclose : s.onClose = true := hallowed.resolve_right hother
        show (e.isException && s.onClose || s.ws == some app) = true
        rw [hH.raised e rfl, hclose]
        rfl
      exact Exits.bind hsilent fun _ => Exits.raise fun _ _ hB => hB
  | closed =>
      have hsilent : Exits streamCount (warranted cfg (.runForever app))
          (Happening cfg app .closed) (fun _ => Leaving cfg app) (Breaking cfg app)
          (setApp app fun a => { a with silent := true }) := by
        apply Exits.modify
        intro s P hH
        have hL : Leaving cfg app s P :=
          ⟨hH.toGrounded, fun hopen => by simpa [mayResume] using hH.allowed hopen⟩
        have hC : Calm cfg (settingApp app (fun a => { a with silent := true }) s) P :=
          hL.ends fun a => by simp [App.isGoing]
        exact hC.leaving
      exact Exits.bind hsilent fun _ => Exits.pure _ fun _ _ hL => hL

theorem exits_disconnect :
    Exits m (warranted cfg t) (Breaking cfg app e) (Rounded cfg app) (fun _ => Leaving cfg app)
      (WebSocketApp.disconnect app e) := by
  refine Exits.ite (fun he => ?_) fun he => Exits.raise fun s P hB => ?_
  · have hover : Exits m (warranted cfg t) (Parting cfg app) (fun _ => Leaving cfg app)
        (fun _ => Leaving cfg app)
        (WebSocketApp.callback app true (onSocketError (.failed app true))) :=
      exits_callbackOver exits_failedOver (fun _ _ _ _ h => h.1) (fun _ _ _ h => h.2)
        fun _ _ hL => hL
    refine Exits.bind (hover.of_weaker fun s P hB => hB.parting he) fun _ =>
      Exits.pure _ fun _ _ hL => hL
  · refine ⟨hB.toGrounded, fun hopen => ?_⟩
    simpa [mayEnd, he] using hB.allowed hopen

theorem exits_round :
    Exits streamCount (warranted cfg (.runForever app)) (Attested cfg) (Rounded cfg app)
      (fun _ => Leaving cfg app) (WebSocketApp.round cfg app) :=
  Exits.tryCatch (Exits.bind exits_nextEvent fun _ => exits_handle) fun _ => exits_disconnect

theorem exits_onClosed :
    Exits m (warranted cfg t) (Calm cfg) (fun _ => Attested cfg)
      (fun e s P => Attested cfg s P ∧ (e.isException = true → Parting cfg app s P))
      (onClosed app) := by
  refine Exits.bind (exits_reportEnd fun _ _ _ hC hs => hC.congr hs) fun _ =>
    Exits.get_bind fun s => Exits.when (fun _ => ?_) ?_
  · apply exits_perform
    · rintro s' P ⟨rfl, hC⟩
      exact hC.attested
    · exact fun _ _ _ hA _ => hA
    · intro s P e hA hres
      refine ⟨hA, fun he => ⟨hA, fun hopen => ?_⟩⟩
      simpa [mayResume, mayEnd, he] using hres hopen
  · rintro - s' P ⟨rfl, hC⟩
    exact hC.attested

/-- The end of the websocket is reported while the connection is not open. -/
theorem exits_teardown :
    Exits m (warranted cfg t) (Leaving cfg app) (fun _ => Attested cfg) (fun _ => Attested cfg)
      (WebSocketApp.teardown app) := by
  let K : HubInv := fun s P => Attested cfg s P ∨ Leaving cfg app s P
  have hsilent : Exits m (warranted cfg t) (Leaving cfg app) (fun _ => Calm cfg)
      (fun _ => Attested cfg) (setApp app fun a => { a with silent := true }) :=
    Exits.modify fun s P hL => hL.ends fun a => by simp [App.isGoing]
  have hclosed : Exits m (warranted cfg t) (Calm cfg) (fun _ => K) (fun _ => K)
      (WebSocketApp.callback app true (onClosed app)) := by
    apply exits_callbackOver (J := K)
    · exact exits_onClosed.mono (fun _ _ hC => hC) (fun _ _ _ hA => .inl hA) fun _ _ _ h => h
    · exact fun _ _ _ he h => h.2 he
    · exact fun _ _ _ h => .inl h.1
    · exact fun _ _ hL => .inr hL
  have hended : Exits m (warranted cfg t) K (fun _ => Attested cfg) (fun _ => Attested cfg)
      (setApp app fun a => { a with ended := true }) := by
    apply Exits.modify
    intro s P hK
    have hends : ∀ a : App, ({ a with ended := true } : App).isGoing = false := fun a => by
      simp [App.isGoing]
    rcases hK with hA | hL
    · exact hA.ends hends
    · have hC : Calm cfg (settingApp app (fun a => { a with ended := true }) s) P := hL.ends hends
      exact hC.attested
  exact Exits.bind hsilent fun _ => Exits.finally_ hclosed (fun _ => hended) fun _ => hended

theorem exits_runForever :
    Exits streamCount (warranted cfg (.runForever app)) (Attested cfg) (fun _ => Attested cfg)
      (fun _ => Attested cfg) (WebSocketApp.runForever cfg app) := by
  refine Exits.get_bind fun s => Exits.of_weaker (I := Attested cfg) ?_ ?_
  · refine Exits.ite (fun _ => ?_) fun _ => ?_
    · have hended : Exits streamCount (warranted cfg (.runForever app)) (Attested cfg)
          (fun _ => Attested cfg) (fun _ => Attested cfg)
          (setApp app fun a => { a with ended := true }) :=
        Exits.modify fun s P hA => hA.ends fun a => by simp [App.isGoing]
      exact Exits.bind hended fun _ => Exits.pure _ fun _ _ hA => hA
    · have hstarted : Exits streamCount (warranted cfg (.runForever app)) (Attested cfg)
          (fun _ => Attested cfg) (fun _ => Attested cfg)
          (setApp app fun a => { a with started := true }) := by
        apply Exits.modify
        intro s P hA
        have hsame : Attested cfg (settingApp app (fun a => { a with started := true }) s) P :=
          hA.congr (openView_settingApp fun _ => rfl) rfl
        exact hsame
      -- another round follows only `True`; else the greenlet is leaving
      let J : Except Exc Bool → HubInv := fun r => Rounded cfg app (r.toOption.getD false)
      have hround : Exits streamCount (warranted cfg (.runForever app)) (Attested cfg) J
          (fun _ => Attested cfg) (WebSocketApp.round cfg app).attempt := Exits.attempt exits_round
      refine Exits.bind hstarted fun _ => Exits.bind hround fun r => ?_
      have hend : ∀ r : Except Exc Bool, Exits streamCount (warranted cfg (.runForever app))
          (Leaving cfg app) (fun _ => Attested cfg) (fun _ => Attested cfg)
          (WebSocketApp.teardown app >>= fun _ => ofExcept r) := fun r =>
        Exits.bind exits_teardown fun _ => Exits.ofExcept (fun _ _ _ _ hA => hA)
          fun _ _ _ _ hA => hA
      rcases r with e | _ | _
      · exact hend _
      · exact hend _
      · exact Exits.pure _ fun _ _ hA => hA
  · rintro s' P ⟨rfl, hA⟩
    exact hA

/-! ## The other activities -/

/-- Nobody minds what leaves the other activities. -/
theorem keeps_of_left {α : Type} {p : Hub α}
    (hp : Exits (fun _ => 0) (warranted cfg t) (Attested cfg) (fun _ => Attested cfg)
      (Left cfg t) p) : Keeps (warranted cfg t) (Attested cfg) p :=
  Exits.keeps (hp.mono (fun _ _ hA => hA) (fun _ _ _ hA => hA) fun _ _ _ hL => hL.toAttested)

theorem attested_modify {f : State → State} (hf : ∀ s, openView (f s) = openView s)
    (hstate : ∀ s, (f s).state = s.state) :
    Keeps (warranted cfg t) (Attested cfg) (modify f : Hub Unit) :=
  Keeps.modify fun s _ hA => hA.congr (hf s) (hstate s)

theorem attested_perform (op : Op) : Keeps (warranted cfg t) (Attested cfg) (perform op) :=
  Keeps.perform (fun _ _ hA => hA.congr rfl rfl) fun _ _ _ hA _ => hA.congr rfl rfl

theorem openView_eq_of_others (hs : offOthers s' = offOthers s) : openView s' = openView s := by
  have hview : ∀ s, openView s = openView (offOthers s) := fun s => by simp [openView, offOthers]
  rw [hview s', hs, ← hview]

theorem attested_send (ht : socketOf t = none) (message : Outgoing) :
    Keeps (warranted cfg t) (Attested cfg) (send cfg message) :=
  keeps_of_left (exits_send fun _ _ => ht)

theorem attested_objects (ht : socketOf t = none) :
    KeepsObjects (warranted cfg t) (Attested cfg) cfg where
  send := attested_send ht
  sleep := fun _ => attested_perform _
  acquire := fun _ => attested_perform _
  modify := fun hf => attested_modify (fun s => openView_eq_of_others (hf s))
    fun s => (congrArg (·.state) (hf s) :)
  auth := attested_perform _
  token := fun _ => attested_modify (fun _ => rfl) fun _ => rfl
  ids := fun _ => attested_modify (fun _ => rfl) fun _ => rfl
  register := fun _ hobject hA =>
    ⟨⟨hA.accepted, hA.handler, hA.functions, (hA.serviceable.register hobject).objects⟩,
      hA.connected⟩
  create := fun event uuid hA =>
    have hcreated := hA.serviceable.streams event uuid
    ⟨⟨hA.accepted, hA.handler, hcreated.functions, hcreated.objects⟩, hA.connected⟩
  subscribe := fun _ _ hcallable hA =>
    have hsubscribed := hA.serviceable.subscribe hcallable
    ⟨⟨hA.accepted, hA.handler, hsubscribed.functions, hsubscribed.objects⟩, hA.connected⟩

theorem attested_start : Keeps (warranted cfg .start) (Attested cfg) (Connection.start cfg) :=
  Exits.keeps (exits_start.mono (fun _ _ hA => hA) (fun _ _ _ hA => hA)
    fun _ _ _ hD => hD.toAttested)

theorem attested_stop : Keeps (warranted cfg .stop) (Attested cfg) (Connection.stop .user) :=
  keeps_of_left ((exits_stop_left (by decide)).mono (fun _ _ hA => hA)
    (fun _ _ _ hC => hC.attested) fun _ _ _ hL => hL)

theorem attested_body (ht : socketOf t = none) (hsound : t.isSound = true) :
    Keeps (warranted cfg t) (Attested cfg) (Hub.body cfg t) := by
  cases t with
  | start =>
      exact keeps_once (Keeps.bind (attested_modify (fun _ => rfl) fun _ => rfl)
        fun _ => attested_start)
  | stop =>
      exact keeps_once (Keeps.finally_ attested_stop (attested_modify (fun _ => rfl) fun _ => rfl))
  | runForever app => cases ht
  | _ => exact (attested_objects rfl).body hsound (by simp) (by simp) (by simp)

/-! ## Runs -/

theorem Attested.init (cfg : Config) : Attested cfg (State.new cfg) 0 := by
  constructor
  · constructor <;> simp [State.new, History.new]
  · simp [isOpen, State.new]

theorem attested_proof : ProofFrom (hub cfg) streamCount (Warranted cfg) (Attested cfg)
    fun _ _ _ _ => True where
  init := .init cfg
  fork := fun _ _ _ hA _ _ => hA.congr rfl rfl
  body := by
    intro s P t hinv hstart
    have hA : Attested cfg (Hub.enter t s) P := hinv.congr rfl rfl
    have hends : ∀ (r : Except Exc Bool) (s : State) (P : Multiset (Label Op Activity))
        (h : List (Logged State Exc Op Op.Result)),
        Exit (fun _ => Attested cfg) (fun _ => Attested cfg) r s P h →
          Ends (Attested cfg) (fun _ _ _ _ => True) t r s P h := by
      rintro (e | _ | _) s P h hA
      · exact ⟨trivial, hA⟩
      · exact ⟨trivial, hA⟩
      · exact ⟨trivial, hA.congr rfl rfl⟩
    have hbody : Exits streamCount (warranted cfg t) (Attested cfg) (fun _ => Attested cfg)
        (fun _ => Attested cfg) (Hub.body cfg t) := by
      cases ht : socketOf t with
      | none => exact Exits.of_keeps (attested_body ht hstart)
      | some app =>
          cases t with
          | runForever app => exact exits_runForever
          | _ => cases ht
    apply wpFrom_entering (f := Hub.enter t) (fun _ => rfl) rfl fun _ _ h => h
    · rintro s P op r hinv ⟨hresume, hpossible⟩
      exact ⟨hinv.congr rfl rfl, hresume, hpossible⟩
    · exact wpFrom_mono hends (hbody _ P [] hA)

/-- In every run whose steps are warranted, an open connection is connected. -/
theorem open_connected {w : World State Exc Op Op.Result Activity}
    (h : (hub cfg).Reach (Warranted cfg) w) (hopen : isOpen w.shared = true) :
    w.shared.state = .connected :=
  (attested_proof.sound hub_growing h).holds.connected hopen

/-- A callback of `on` raises, and the connection, which is open, is reported as disconnected. -/
theorem open_disconnected :
    ∃ w, (hub (.direct none)).Reach .any w ∧ isOpen w.shared = true ∧
      w.shared.state = .disconnected := by
  have h := (hub (.direct none)).reach_after [.fork (.on "E" 0), .start 0, .fork .start, .start 1,
    .start 2, .answer 2 (.happened .opened), .answer 2 .done, .start 2,
    .answer 2 (.happened (.message (.text "\x7b\x7d\x1e"))), .start 2,
    .answer 2 (.happened (.message
      (.text "\x7b\"type\": 1, \"target\": \"E\", \"arguments\": []\x7d\x1e"))),
    .answer 2 (.raised (.exception ""))] .start rfl
  exact ⟨_, h, rfl, rfl⟩

/-- The same run with an `on_close` callback, which has not returned yet. -/
theorem open_connected_close :
    ∃ w, (hub (.direct none)).Reach (Warranted (.direct none)) w ∧ isOpen w.shared = true ∧
      w.shared.state = .connected := by
  have h := (hub (.direct none)).reach_within (Warranted (.direct none)) [.fork (.on "E" 0),
    .start 0, .fork (.onClose true), .start 1, .fork .start, .start 2,
    .start 3, .answer 3 (.happened .opened), .answer 3 .done, .start 3,
    .answer 3 (.happened (.message (.text "\x7b\x7d\x1e"))), .start 3,
    .answer 3 (.happened (.message
      (.text "\x7b\"type\": 1, \"target\": \"E\", \"arguments\": []\x7d\x1e"))),
    .answer 3 (.raised (.exception ""))] .start rfl
  exact ⟨_, h, rfl, open_connected h rfl⟩

end GeventSignalR
