import GeventSignalR.Hub.Objects
import GeventSignalR.Hub.Ownership
import GeventSignalR.Hub.Restart

/-!
# Events of a websocket that has been replaced

The callbacks of every `WebSocketApp` are the same methods, and none of them asks which
one called it.  When a websocket reports its end, or that one of its callbacks has raised,
behind the creation of the next one, `on_close` and `on_socket_error` change the state of the
next one.

* `Timely` are the steps in which that does not matter: `mayReturn` lists the returns of
  operations to a websocket that has been replaced behind which it reports nothing, or finds the
  state `disconnected`.
* `Own` is the invariant: `state` and `handshake_received` are what they would be without
  such reports.
* `Escaping` and `GivingUp` say what is known of an exception, depending on who gets it, and
  `Reporting` what the end of a websocket finds.
-/

namespace GeventSignalR

open Coop Coop.Prog WebsocketTransport

/-! ## The condition -/

/-- The thread is the greenlet of a websocket that another one has replaced. -/
def isSuperseded (s : State) : Activity → Bool
  | .runForever app => s.ws.any (· != app)
  | _ => false

/-- An exception may leave a callback of the websocket: `on_socket_error` calls `on_close` before
it sets the state, or the state is `disconnected` already. -/
def mayEscape (s : State) (e : Exc) : Bool :=
  (e.isException && s.onClose) || s.state == .disconnected

/-- An exception may reach the `except` clause of `handle_reconnect`, which sleeps, or raises
itself. -/
def mayGiveUp (s : State) (e : Exc) : Bool :=
  (e.isException && hasNext s) || mayEscape s e

/-- A frame can be decoded. -/
def isDecodable (cfg : Config) (raw : Raw) (handshakeReceived : Bool) : Bool :=
  if handshakeReceived then (cfg.protocol.parseMessages raw).isOk
  else (cfg.protocol.decodeHandshake raw).isOk

/-- An operation that is no step of a restart returns, and the code behind it reports nothing. -/
def mayGoOn (cfg : Config) (s : State) : (op : Op) → Except Exc op.Result → Bool
  -- the end of the websocket, and a frame that makes `on_message` raise
  | .event _, .ok .closed => s.state == .disconnected
  | .event _, .ok (.failed e) => mayEscape s e
  | .event _, .ok (.message raw) =>
      isDecodable cfg raw s.handshakeReceived || s.onClose || s.state == .disconnected
  -- `on_close`, with the assignments of `on_close` and `on_socket_error` behind it
  | .callback (.onClose (.closed _)), .error e => !e.isException || mayEscape s e
  | .callback (.onClose (.failed _ true)), _ => s.state == .disconnected
  | .callback (.onClose (.failed _ false)), .ok _ => s.state == .disconnected
  | .callback (.onClose .lost), .ok _ => s.onClose || s.state == .disconnected
  -- `send` takes care of a lost connection
  | .wsSend .., .error e => e.isConnectionLost || mayEscape s e
  | _, .error e => mayEscape s e
  | _, .ok _ => true

/-- The same for every operation: what a step of a restart raises goes to `handle_reconnect`. -/
def mayReturn (cfg : Config) (s : State) (op : Op) (r : Except Exc op.Result) : Bool :=
  if Hub.isRestartStep op then (restartError cfg s op r).all (mayGiveUp s)
  else mayGoOn cfg s op r

/-- A websocket that has been replaced reports its end, or an exception of a callback, only while
the state is `disconnected` anyway.  Calls of `subscribe` pass functions, and the errors of
completions have a length. -/
def Timely (cfg : Config) : Cond State Exc Op Op.Result Activity where
  fork := fun _ _ _ => True
  start := fun _ _ t => t.isSound = true
  resume := fun s _ t op r =>
    (∀ raw ∈ arrived op r, isSizedFrame cfg raw = true) ∧
      (isSuperseded s t = true → mayReturn cfg s op r = true)

instance (cfg : Config) : System.Decides (Timely cfg) where
  fork := fun _ _ _ => isTrue trivial
  start := fun _ _ t => inferInstanceAs (Decidable (t.isSound = true))
  resume := fun _ _ _ _ _ => inferInstanceAs (Decidable (_ ∧ (_ → _)))

/-! ## The invariant -/

/-- `state` and `handshake_received` are as the events of their own websockets leave
them. -/
structure Own (cfg : Config) (s : State) (_ : Multiset (Label Op Activity)) : Prop
    extends Serviceable s where
  state : s.state = s.history.ownState
  handshakeReceived : s.handshakeReceived = s.history.ownHandshake
  handler : s.reconnectionHandler.isSome = cfg.reconnection.isSome
  wired : s.ws.isSome = true → s.greenlet.isSome = true

/-- The exception may leave a callback of the websocket. -/
structure Escaping (cfg : Config) (t : Activity) (e : Exc) (s : State)
    (P : Multiset (Label Op Activity)) : Prop extends Own cfg s P where
  allowed : isSuperseded s t = true → mayEscape s e = true

/-- The exception may reach the `except` clause of `handle_reconnect`. -/
structure GivingUp (cfg : Config) (t : Activity) (e : Exc) (s : State)
    (P : Multiset (Label Op Activity)) : Prop extends Own cfg s P where
  allowed : isSuperseded s t = true → mayGiveUp s e = true

/-- If the websocket has been replaced, `on_close` is called, or nothing is left to set. -/
structure Covering (cfg : Config) (t : Activity) (s : State)
    (P : Multiset (Label Op Activity)) : Prop extends Own cfg s P where
  covered : isSuperseded s t = true → s.onClose = true ∨ s.state = .disconnected

/-- If the websocket has been replaced, nothing is left to set. -/
structure Reporting (cfg : Config) (t : Activity) (s : State)
    (P : Multiset (Label Op Activity)) : Prop extends Own cfg s P where
  unnoticed : isSuperseded s t = true → s.state = .disconnected

variable {cfg : Config} {t : Activity} {s s' : State} {P P' : Multiset (Label Op Activity)}
  {app : Nat} {e : Exc} {m : State → Nat}

/-- What the proof assumes. -/
abbrev timely (cfg : Config) (t : Activity) : HubRely :=
  (hub cfg).rely (Timely cfg) (Own cfg) t

/-- What the properties read of the state, but for `on_close`. -/
def ownView (s : State) : (ConnectionState × ConnectionState) × (Bool × Bool) ×
    Bool × Option Nat × Bool × List StreamHandler × List Handler :=
  ((s.state, s.history.ownState), (s.handshakeReceived, s.history.ownHandshake),
    s.reconnectionHandler.isSome, s.ws, s.greenlet.isSome, s.streams, s.streamHandlers)

theorem Own.congr (h : Own cfg s P) (hs : ownView s' = ownView s) : Own cfg s' P' := by
  simp only [ownView, Prod.mk.injEq] at hs
  obtain ⟨⟨hstate, hownState⟩, ⟨hflag, hownFlag⟩, hhandler, hws, hgreenlet, hstreams, htable⟩ := hs
  refine ⟨⟨?_, ?_⟩, ?_, ?_, ?_, ?_⟩
  · rw [hstreams]
    exact h.functions
  · rw [hstreams, htable]
    exact h.objects
  · rw [hstate, hownState]
    exact h.state
  · rw [hflag, hownFlag]
    exact h.handshakeReceived
  · rw [hhandler]
    exact h.handler
  · rw [hws, hgreenlet]
    exact h.wired

theorem isSuperseded_congr (hws : s'.ws = s.ws) : isSuperseded s' t = isSuperseded s t := by
  cases t <;> simp [isSuperseded, hws]

/-- Another websocket is stored. -/
theorem ws_isSome_of_isSuperseded (h : isSuperseded s t = true) : s.ws.isSome = true := by
  cases t with
  | runForever app =>
      cases hws : s.ws with
      | none => simp [isSuperseded, hws] at h
      | some other => rfl
  | _ => cases h

theorem mayEscape_iff : mayEscape s e = true ↔
    (e.isException = true ∧ s.onClose = true) ∨ s.state = .disconnected := by
  simp [mayEscape]

namespace Own

/-- A write or a report that raises does so only where a websocket is stored. -/
theorem escaping_of_ws (h : Own cfg s P) (hws : s.ws = none) : Escaping cfg t e s P := by
  refine ⟨h, fun hsuperseded => ?_⟩
  have hsome := ws_isSome_of_isSuperseded hsuperseded
  rw [hws] at hsome
  cases hsome

/-- The state is set where nothing reports it. -/
theorem reporting_of_disconnected (h : Own cfg s P) (hstate : s.state = .disconnected) :
    Reporting cfg t s P :=
  ⟨h, fun _ => hstate⟩

end Own

theorem Escaping.congr (h : Escaping cfg t e s P) (hs : ownView s' = ownView s)
    (hclose : s'.onClose = s.onClose) : Escaping cfg t e s' P' := by
  refine ⟨h.toOwn.congr hs, fun hsuperseded => ?_⟩
  have hstate : s'.state = s.state := congrArg (·.1.1) hs
  have hws : s'.ws = s.ws := congrArg (·.2.2.2.1) hs
  rw [isSuperseded_congr hws] at hsuperseded
  have hallowed := h.allowed hsuperseded
  unfold mayEscape at hallowed ⊢
  rwa [hclose, hstate]

theorem Reporting.congr (h : Reporting cfg t s P) (hs : ownView s' = ownView s) :
    Reporting cfg t s' P' := by
  refine ⟨h.toOwn.congr hs, fun hsuperseded => ?_⟩
  have hstate : s'.state = s.state := congrArg (·.1.1) hs
  have hws : s'.ws = s.ws := congrArg (·.2.2.2.1) hs
  rw [isSuperseded_congr hws] at hsuperseded
  rw [hstate]
  exact h.unnoticed hsuperseded

/-- An exception that a callback of the websocket reports. -/
theorem Escaping.covering (h : Escaping cfg t e s P) : Covering cfg t s P := by
  refine ⟨h.toOwn, fun hsuperseded => ?_⟩
  rcases mayEscape_iff.mp (h.allowed hsuperseded) with ⟨-, hclose⟩ | hstate
  · exact .inl hclose
  · exact .inr hstate

/-- One that is no `Exception` ends the greenlet. -/
theorem Escaping.reporting (h : Escaping cfg t e s P) (he : e.isException = false) :
    Reporting cfg t s P := by
  refine ⟨h.toOwn, fun hsuperseded => ?_⟩
  simpa [mayEscape, he] using h.allowed hsuperseded

theorem Reporting.covering (h : Reporting cfg t s P) : Covering cfg t s P :=
  ⟨h.toOwn, fun hsuperseded => .inr (h.unnoticed hsuperseded)⟩

/-! ## Leaves -/

theorem own_modify {f : State → State} (hf : ∀ s, ownView (f s) = ownView s) :
    Keeps (timely cfg t) (Own cfg) (modify f : Hub Unit) :=
  Keeps.modify fun s _ h => h.congr (hf s)

theorem own_perform (op : Op) : Keeps (timely cfg t) (Own cfg) (perform op) :=
  Keeps.perform (fun _ _ h => h.congr rfl) fun _ _ _ h _ => h.congr rfl

theorem own_setHandler (f : ReconnectionHandler → ReconnectionHandler) :
    Keeps (timely cfg t) (Own cfg) (setHandler f) :=
  own_modify fun s => by simp [ownView]

/-- An assignment is made in both places. -/
theorem own_setState (value : ConnectionState) :
    Keeps (timely cfg t) (Own cfg) (setState value) :=
  Keeps.bind (Keeps.modify fun _ _ h =>
    ⟨⟨h.functions, h.objects⟩, rfl, h.handshakeReceived, h.handler, h.wired⟩) fun _ =>
      Keeps.when fun _ => own_modify fun _ => rfl

theorem own_setHandshakeReceived (value : Bool) :
    Keeps (timely cfg t) (Own cfg) (setHandshakeReceived value) :=
  Keeps.modify fun _ _ h => ⟨⟨h.functions, h.objects⟩, h.state, rfl, h.handler, h.wired⟩

theorem own_createApp : Keeps (timely cfg t) (Own cfg) createApp := by
  intro s P h hown
  exact ⟨⟨hown.functions, hown.objects⟩, hown.state, hown.handshakeReceived, hown.handler,
    fun _ => rfl⟩

/-- An operation whose exceptions leave the callback of the websocket. -/
theorem escaping_perform {op : Op}
    (hop : ∀ s e, mayReturn cfg s op (.error e) = mayEscape s e) :
    Throws (timely cfg t) (Own cfg) (Escaping cfg t) (perform op) := by
  apply Throws.perform
  · exact fun s P h => h.congr rfl
  · intro s P r h hres
    have hown : Own cfg s P := h.congr rfl
    refine ⟨hown, fun e hr => ⟨hown, fun hsuperseded => ?_⟩⟩
    rw [← hop, ← hr]
    exact hres.1.2 hsuperseded

/-! ## `handle_reconnect` -/

theorem own_restart : KeepsRestart (timely cfg t) (Own cfg) where
  checker := own_modify fun _ => rfl
  closing := fun _ => own_modify fun _ => rfl
  closed := fun _ => own_modify fun _ => rfl
  disconnected := own_setState _
  connecting := own_setState _
  handshakeReceived := own_setHandshakeReceived _
  killed := fun _ => keeps_killApp (fun _ => own_modify fun _ => rfl) (own_modify fun _ => rfl)
  restarts := own_modify fun _ => rfl
  token := fun _ => own_modify fun _ => rfl
  redirect := fun _ _ => own_modify fun _ => rfl
  create := own_createApp

theorem givingUp_restart : ThrowsRestart (timely cfg t) (Own cfg) (GivingUp cfg t) cfg where
  block := fun _ _ _ _ h => h.congr rfl
  resume := by
    intro s P op r hop hinv hres
    have hown : Own cfg s P := hinv.congr rfl
    refine ⟨hown, fun e he => ⟨hown, fun hsuperseded => ?_⟩⟩
    have hallowed : mayReturn cfg s op r = true := hres.1.2 hsuperseded
    simpa [mayReturn, hop, he] using hallowed
  greenlet := by
    intro s P hown hgreenlet
    refine ⟨hown, fun hsuperseded => ?_⟩
    have hsome := hown.wired (ws_isSome_of_isSuperseded hsuperseded)
    rw [hgreenlet] at hsome
    cases hsome

/-- The `except` clause of `handle_reconnect`. -/
theorem escaping_deferReconnect (hconfigured : cfg.reconnection.isSome = true) (e : Exc) (s : State)
    (P : Multiset (Label Op Activity)) (h : List (Logged State Exc Op Op.Result))
    (hgiving : GivingUp cfg t e s P) :
    (deferReconnect e).wp (timely cfg t)
      (fun r s P _ => Own cfg s P ∧ ∀ e, r = .error e → Escaping cfg t e s P) s P h := by
  have hnone : s.reconnectionHandler ≠ none := by
    intro hnone
    have hsome := hgiving.handler
    rw [hnone, hconfigured] at hsome
    cases hsome
  apply wp_deferReconnect
  · intro he
    refine ⟨hgiving.toOwn, fun e' hr => ?_⟩
    cases hr
    refine ⟨hgiving.toOwn, fun hsuperseded => ?_⟩
    simpa [mayGiveUp, he] using hgiving.allowed hsuperseded
  · exact fun _ hnone' => absurd hnone' hnone
  · rintro handler he hhandler s' rfl
    have hview : ownView { s with
        reconnectionHandler := some handler.next.1
        history := { s.history with
          exhausted := s.history.exhausted || !handler.next.2.isOk } } = ownView s := by
      simp [ownView, hhandler]
    cases hnext : handler.next.2 with
    | ok sleepTime =>
        refine ⟨hgiving.toOwn.congr ?_, fun _ hr => by cases hr⟩
        simpa [hnext] using hview
    | error e' =>
        -- the handler has given up
        have hraised : Escaping cfg t e' s P := by
          refine ⟨hgiving.toOwn, fun hsuperseded => ?_⟩
          have hexception : e'.isException = true := handler.next_exception e' hnext
          have hallowed := hgiving.allowed hsuperseded
          simpa [mayGiveUp, mayEscape, hasNext, hhandler, hnext, he, hexception, Except.isOk,
            Except.toBool] using hallowed
        have hgone : Escaping cfg t e' _ P := hraised.congr hview rfl
        rw [hnext] at hgone
        refine ⟨hgone.toOwn, fun e hr => ?_⟩
        cases hr
        exact hgone

theorem escaping_handleReconnect (hconfigured : cfg.reconnection.isSome = true) :
    Throws (timely cfg t) (Own cfg) (Escaping cfg t) (handleReconnect cfg) := by
  apply throws_handleReconnect
  · intro s P hown hnone
    have hsome := hown.handler
    rw [hnone, hconfigured] at hsome
    cases hsome
  · exact Throws.bind (throws_of_keeps_modify (own_modify fun _ => rfl)) fun _ =>
      escaping_perform fun _ _ => rfl
  · exact own_setHandler _
  · exact throws_reconnect own_restart givingUp_restart
  · exact fun e s P h _ hgiving => escaping_deferReconnect hconfigured e s P h hgiving

/-! ## `send` and `stop` -/

theorem own_down (h : Own cfg s P) : Own cfg (down s) P :=
  ⟨⟨h.functions, h.objects⟩, rfl, rfl, h.handler, h.wired⟩

/-- A lost connection without a reconnection handler. -/
theorem escaping_reportLost (hown : Own cfg s P) (hstate : s.state = .disconnected)
    (h : List (Logged State Exc Op Op.Result)) :
    (reportLost e).wp (timely cfg t)
      (fun r s P _ => Own cfg s P ∧ ∀ e, r = .error e → Escaping cfg t e s P) s P h := by
  unfold reportLost call
  simp only [wp_bind, wp_get, wp_when]
  split_ifs
  · rw [wp_perform]
    refine ⟨hown.congr rfl, ?_⟩
    rintro s P (e' | _) hinv hres
    · have hown : Own cfg s P := hinv.congr rfl
      refine ⟨hown, fun e'' hr => ?_⟩
      cases hr
      exact ⟨hown, hres.1.2⟩
    · have hown : Own cfg s P := hinv.congr rfl
      refine ⟨hown, fun e' hr => ?_⟩
      cases hr
      refine ⟨hown, fun hsuperseded => ?_⟩
      exact hres.1.2 hsuperseded
  · refine ⟨hown, fun e' hr => ?_⟩
    cases hr
    exact ⟨hown, fun _ => mayEscape_iff.mpr (.inr hstate)⟩

/-- A message that can be encoded, or that no websocket sends. -/
theorem escaping_send {message : Outgoing}
    (hmessage : ∀ e, cfg.protocol.encode message = .error e → ∀ s, isSuperseded s t = false) :
    Throws (timely cfg t) (Own cfg) (Escaping cfg t) (send cfg message) := by
  have hrule : SendRule (timely cfg t) (Own cfg) (Own cfg) (Escaping cfg t) cfg message :=
    { unstored := fun _ _ hown hws => hown.escaping_of_ws hws
      encode := fun s _ e hown he => ⟨hown, fun hsuperseded => by
        rw [hmessage e he s] at hsuperseded
        cases hsuperseded⟩
      block := fun _ _ _ hown _ => hown.congr rfl
      written := fun _ _ _ hinv _ => hinv.congr (by simp [ownView])
      lost := fun _ _ _ _ hinv _ _ => hinv.congr rfl
      failed := by
        intro s P app e hinv hres he
        have hraised : Escaping cfg t e s P := by
          refine ⟨hinv.congr rfl, fun hsuperseded => ?_⟩
          have hallowed : mayReturn cfg s (.wsSend app message) (.error e) = true :=
            hres.1.2 hsuperseded
          simpa [mayReturn, Hub.isRestartStep, mayGoOn, he] using hallowed
        have hfailed : Escaping cfg t e (failing app e s) P := hraised.congr rfl rfl
        exact ⟨hfailed.toOwn, hfailed⟩ }
  refine throws_send hrule fun e s P h hown => ?_
  apply wp_connectionLost
  · exact fun _ => escaping_reportLost (own_down hown) rfl h
  · intro hhandler
    have hconfigured : cfg.reconnection.isSome = true := by
      rw [← hown.handler]
      simpa [Option.isSome_iff_ne_none] using hhandler
    exact escaping_handleReconnect hconfigured (down s) P h (own_down hown)

theorem escaping_stop {site : StopSite} (hsite : site ≠ .reconnect) :
    Throws (timely cfg t) (Own cfg) (Escaping cfg t) (stop site) := by
  have hclose : Throws (timely cfg t) (Own cfg) (Escaping cfg t) (closeWs site) := by
    refine Throws.bind .get fun s => ?_
    cases s.ws with
    | none => exact .pure _
    | some app =>
        refine Throws.bind (throws_of_keeps_modify (own_modify fun _ => rfl)) fun _ =>
          Throws.bind (escaping_perform fun s e => ?_) fun _ =>
            throws_of_keeps_modify (own_modify fun _ => rfl)
        cases site with
        | reconnect => exact absurd rfl hsite
        | user => rfl
        | rejected => rfl
        | closeMessage => rfl
  exact Throws.bind .get fun _ => Throws.when fun _ =>
    Throws.bind (throws_of_keeps_modify (own_modify fun _ => rfl)) fun _ =>
      Throws.bind hclose fun _ => Throws.bind (throws_setState (own_setState _)) fun _ =>
        throws_of_keeps_modify (own_setHandshakeReceived _)

theorem escaping_call {callback : Callback}
    (hcallback : ∀ s e, mayGoOn cfg s (.callback callback) (.error e) = mayEscape s e) :
    Throws (timely cfg t) (Own cfg) (Escaping cfg t) (call callback) :=
  escaping_perform hcallback

/-! ## Frames -/

theorem escaping_acceptHandshake :
    Throws (timely cfg t) (Own cfg) (Escaping cfg t) (acceptHandshake app) := by
  have hchecker : Throws (timely cfg t) (Own cfg) (Escaping cfg t) ConnectionStateChecker.start :=
    Throws.bind (throws_of_keeps_modify (own_modify fun _ => rfl)) fun _ =>
      Throws.fork fun _ _ h => h.congr rfl
  have hdone : Throws (timely cfg t) (Own cfg) (Escaping cfg t) handshakeDone :=
    Throws.bind .get fun _ => Throws.when fun _ =>
      Throws.bind (throws_of_keeps_modify (own_setHandler _)) fun _ => Throws.when fun _ => hchecker
  exact Throws.bind (throws_of_keeps_modify (own_setHandshakeReceived _)) fun _ =>
    Throws.bind (throws_setState (own_setState _)) fun _ => Throws.bind .get fun _ =>
      Throws.bind (throws_of_keeps_modify (own_modify fun _ => rfl)) fun _ => hdone

/-- A handshake response that is rejected is no event of a websocket that ends. -/
theorem escaping_rejectHandshake :
    Throws (timely cfg t) (Own cfg) (Escaping cfg t) rejectHandshake := by
  have hws : Throws (timely cfg t) (Own cfg) (Escaping cfg t) ws := by
    refine Throws.get_bind fun s P h hown => ?_
    cases hstored : s.ws with
    | none =>
        refine ⟨hown, fun e hr => ?_⟩
        cases hr
        exact hown.escaping_of_ws hstored
    | some app => exact ⟨hown, fun _ hr => by cases hr⟩
  have herror : Throws (timely cfg t) (Own cfg) (Escaping cfg t) (onSocketError .rejected) :=
    Throws.bind .get fun _ => Throws.bind (Throws.when fun _ => escaping_call fun _ _ => rfl)
      fun _ => Throws.bind .get fun _ => throws_setState (own_setState _)
  exact Throws.bind (throws_of_keeps_modify (own_modify fun _ => rfl)) fun _ =>
    Throws.bind hws fun _ => Throws.bind herror fun _ =>
      Throws.bind (escaping_stop (by decide)) fun _ => throws_setState (own_setState _)

theorem escaping_reportOpen :
    Throws (timely cfg t) (Own cfg) (Escaping cfg t) reportOpen :=
  Throws.bind .get fun _ => Throws.when fun _ =>
    Throws.bind (throws_setState (own_setState _)) fun _ =>
      Throws.bind (throws_of_keeps_modify (own_modify fun _ => rfl)) fun _ =>
        escaping_call fun _ _ => rfl

/-- A frame is taken up: on a websocket that has been replaced it can be decoded, or its error is
covered. -/
structure Taking (cfg : Config) (t : Activity) (raw : Raw) (received : Bool) (s : State)
    (P : Multiset (Label Op Activity)) : Prop extends Own cfg s P where
  decodable : isSuperseded s t = true →
    isDecodable cfg raw received = true ∨ s.onClose = true ∨ s.state = .disconnected

variable {raw : Raw}

theorem Taking.escaping {received : Bool} (h : Taking cfg t raw received s P)
    (hraw : isDecodable cfg raw received = false) (he : e.isException = true) :
    Escaping cfg t e s P := by
  refine ⟨h.toOwn, fun hsuperseded => mayEscape_iff.mpr ?_⟩
  have hcovered := (h.decodable hsuperseded).resolve_left (by simp [hraw])
  exact hcovered.imp (fun hclose => ⟨he, hclose⟩) id

theorem own_evaluateHandshake (hsized : isSizedFrame cfg raw = true) :
    Exits m (timely cfg t) (Taking cfg t raw false)
      (fun messages s P => (∀ message ∈ messages, message.isSized = true) ∧ Own cfg s P)
      (Escaping cfg t) (evaluateHandshake cfg app raw) := by
  let J : HandshakeResponseMessage × List Message → HubInv := fun response s P =>
    cfg.protocol.decodeHandshake raw = .ok response ∧ Own cfg s P
  refine Exits.bind (J := J) (Exits.ofExcept ?_ ?_) fun response => ?_
  · exact fun response hdecode s P h => ⟨hdecode, h.toOwn⟩
  · intro e hdecode s P h
    apply h.escaping
    · simp [isDecodable, hdecode, Except.isOk, Except.toBool]
    · exact cfg.protocol.decode_exception hdecode
  · rintro s P h ⟨hdecode, hown⟩
    have hmessages : ∀ message ∈ response.2, message.isSized = true :=
      isSized_of_response hsized hdecode
    have hjudge : Throws (timely cfg t) (Own cfg) (Escaping cfg t) (judge app response.1) := by
      unfold judge
      split_ifs
      · exact escaping_acceptHandshake
      · exact escaping_rejectHandshake
    exact Exits.bind (Exits.of_throws hjudge)
      (fun _ => Exits.pure _ fun _ _ hown => ⟨hmessages, hown⟩) s P h hown

theorem own_receive (hsized : isSizedFrame cfg raw = true) :
    Exits m (timely cfg t) (fun s P => Taking cfg t raw s.handshakeReceived s P)
      (fun messages s P => (∀ message ∈ messages, message.isSized = true) ∧ Own cfg s P)
      (Escaping cfg t) (receive cfg app raw) := by
  refine Exits.get_bind fun s =>
    Exits.bind (J := fun _ => Taking cfg t raw s.handshakeReceived) (Exits.modify ?_) fun _ => ?_
  · rintro s' P ⟨rfl, h⟩
    exact ⟨h.toOwn.congr rfl, h.decodable⟩
  · unfold interpret
    cases s.handshakeReceived with
    | false =>
        refine Exits.bind (own_evaluateHandshake hsized) fun messages => ?_
        rintro s P h ⟨hmessages, hown⟩
        exact Exits.bind (Exits.of_throws escaping_reportOpen)
          (fun _ => Exits.pure _ fun _ _ hown => ⟨hmessages, hown⟩) s P h hown
    | true =>
        apply Exits.ofExcept
        · intro messages hparse s P h
          exact ⟨isSized_of_messages hsized hparse, h.toOwn⟩
        · intro e hparse s P h
          apply h.escaping
          · simp [isDecodable, hparse, Except.isOk, Except.toBool]
          · exact cfg.protocol.parse_exception hparse

theorem own_dispatch : ExitsDispatch (timely cfg t) (Own cfg) (Escaping cfg t) where
  serviceable := fun hown => hown.toServiceable
  recorded := fun _ _ hown => hown.congr rfl
  unregistered := fun select hown =>
    ⟨hown.toServiceable.filter select, hown.state, hown.handshakeReceived, hown.handler, hown.wired⟩
  block := fun _ hown => hown.congr rfl
  resume := by
    intro s P callback r hcallback hinv hres
    have hown : Own cfg s P := hinv.congr rfl
    refine ⟨hown, fun e hr => ⟨hown, fun hsuperseded => ?_⟩⟩
    have hallowed := hres.1.2 hsuperseded
    rw [hr] at hallowed
    cases callback with
    | onOpen => cases hcallback
    | onClose site => cases hcallback
    | onReconnect => cases hcallback
    | onError message => exact hallowed
    | event callback arguments => exact hallowed
    | handler callback handlerCall => exact hallowed
  stop := Exits.of_throws (escaping_stop (by decide))

theorem own_frame (hsized : isSizedFrame cfg raw = true) :
    Exits streamCount (timely cfg t) (fun s P => Taking cfg t raw s.handshakeReceived s P)
      (fun _ => Own cfg) (Escaping cfg t) (onMessage cfg app raw) := by
  refine Exits.bind (own_receive hsized) fun messages => ?_
  rintro s P h ⟨hmessages, hown⟩
  exact own_dispatch.onMessage hmessages s P h hown

/-! ## Reports -/

/-- A report of a websocket that has been replaced finds what it assigns. -/
theorem own_reportEnd {site : CloseSite} {F : Exc → HubInv}
    (hsite : ∀ s, isLate s site = isSuperseded s t) :
    Exits m (timely cfg t) (Reporting cfg t)
      (fun _ s P => Own cfg s P ∧ s.state = .disconnected) F (reportEnd site) := by
  refine Exits.get_bind fun s => ?_
  rw [hsite s]
  refine Exits.ite (fun hlate => ?_) fun _ => ?_
  · apply Exits.modify
    rintro s' P ⟨rfl, h⟩
    have hstate : s'.state = .disconnected := h.unnoticed hlate
    exact ⟨h.toOwn.congr (by simp [ownView, hstate]), rfl⟩
  · rw [setState_disconnected]
    apply Exits.modify
    rintro s' P ⟨rfl, h⟩
    exact ⟨⟨⟨h.functions, h.objects⟩, rfl, h.handshakeReceived, h.handler, h.wired⟩, rfl⟩

/-- `on_socket_error`, where the error is covered and `on_close` returns in time. -/
theorem own_onSocketError {site : CloseSite} {F : Exc → HubInv}
    (hsite : ∀ s, isLate s site = isSuperseded s t)
    (hok : ∀ s, mayReturn cfg s (.callback (.onClose site)) (.ok ()) = true →
      s.state = .disconnected)
    (herror : ∀ s P e, Own cfg s P → (isSuperseded s t = true →
      mayReturn cfg s (.callback (.onClose site)) (.error e) = true) → F e s P) :
    Exits m (timely cfg t) (Covering cfg t) (fun _ s P => Own cfg s P ∧ s.state = .disconnected) F
      (onSocketError site) := by
  refine Exits.get_bind fun s => Exits.bind (J := fun _ => Reporting cfg t) (Exits.when ?_ ?_)
    fun _ => own_reportEnd hsite
  · intro _
    apply Exits.perform
    · rintro s' P ⟨rfl, h⟩
      exact h.toOwn.congr rfl
    · intro _ _ _ s P _ _ hinv hres
      exact ⟨hinv.congr rfl, fun hsuperseded => hok s (hres.1.2 hsuperseded)⟩
    · intro _ _ _ s P e _ hinv hres
      exact herror s P e (hinv.congr rfl) hres.1.2
  · rintro hnone s' P ⟨rfl, h⟩
    refine ⟨h.toOwn, fun hsuperseded => ?_⟩
    rcases h.covered hsuperseded with hclose | hstate
    · rw [hclose] at hnone
      cases hnone
    · exact hstate

/-- An exception leaves a callback of a websocket that goes on. -/
theorem own_callbackGoing {I : HubInv} {p : Hub Unit}
    (hp : Exits m (timely cfg (.runForever app)) I (fun _ => Own cfg)
      (Escaping cfg (.runForever app)) p) :
    Exits m (timely cfg (.runForever app)) I (fun _ => Own cfg) (Escaping cfg (.runForever app))
      (WebSocketApp.callback app false p) := by
  refine Exits.tryCatch hp fun e => Exits.ite (fun _ => ?_) fun _ => Exits.raise fun _ _ h => h
  have herror : Exits m (timely cfg (.runForever app)) (Covering cfg (.runForever app))
      (fun _ s P => Own cfg s P ∧ s.state = .disconnected) (Escaping cfg (.runForever app))
      (onSocketError (.failed app false)) := by
    apply own_onSocketError fun _ => rfl
    · intro s hallowed
      simpa [mayReturn, Hub.isRestartStep, mayGoOn] using hallowed
    · exact fun s P e hown hallowed => ⟨hown, hallowed⟩
  exact herror.mono (fun _ _ h => h.covering) (fun _ _ _ h => h.1) fun _ _ _ h => h

/-- The error event of a websocket that is over. -/
theorem own_failedOver :
    Exits m (timely cfg (.runForever app)) (Covering cfg (.runForever app))
      (fun _ => Reporting cfg (.runForever app)) (fun _ => Reporting cfg (.runForever app))
      (onSocketError (.failed app true)) := by
  have herror : Exits m (timely cfg (.runForever app)) (Covering cfg (.runForever app))
      (fun _ s P => Own cfg s P ∧ s.state = .disconnected)
      (fun _ => Reporting cfg (.runForever app)) (onSocketError (.failed app true)) := by
    apply own_onSocketError fun _ => rfl
    · intro s hallowed
      simpa [mayReturn, Hub.isRestartStep, mayGoOn] using hallowed
    · intro s P e hown hallowed
      refine ⟨hown, fun hsuperseded => ?_⟩
      simpa [mayReturn, Hub.isRestartStep, mayGoOn] using hallowed hsuperseded
  exact herror.mono (fun _ _ h => h) (fun _ _ _ h => h.1.reporting_of_disconnected h.2)
    fun _ _ _ h => h

/-- An exception leaves a callback of a websocket that is over. -/
theorem own_callbackOver {I J : HubInv} {F : Exc → HubInv} {p : Hub Unit}
    (hp : Exits m (timely cfg (.runForever app)) I (fun _ => J) F p)
    (hcovering : ∀ e s P, e.isException = true → F e s P → Covering cfg (.runForever app) s P)
    (hraise : ∀ e s P, F e s P → e.isException = false → J s P)
    (hJ : ∀ s P, Reporting cfg (.runForever app) s P → J s P) :
    Exits m (timely cfg (.runForever app)) I (fun _ => J) (fun _ => J)
      (WebSocketApp.callback app true p) := by
  refine Exits.tryCatch hp fun e => Exits.ite (fun he => ?_) fun he => Exits.raise fun s P hF => ?_
  · exact own_failedOver.mono (fun s P hF => hcovering e s P he hF) (fun _ => hJ) fun _ => hJ
  · exact hraise e s P hF (by simpa using he)

/-! ## The greenlet of a websocket -/

/-- What the websocket does is taken up. -/
structure Taken (cfg : Config) (app : Nat) (event : WsEvent) (s : State)
    (P : Multiset (Label Op Activity)) : Prop extends Own cfg s P where
  sized : ∀ raw, event = .message raw → isSizedFrame cfg raw = true
  allowed : isSuperseded s (.runForever app) = true →
    mayGoOn cfg s (.event app) (.ok event) = true

theorem own_nextEvent :
    Exits m (timely cfg (.runForever app)) (Own cfg) (Taken cfg app)
      (Escaping cfg (.runForever app)) (WebSocketApp.nextEvent app) := by
  apply Exits.perform
  · exact fun s P hown => hown.congr rfl
  · intro _ _ _ s P event _ hinv hres
    refine ⟨hinv.congr rfl, ?_, hres.1.2⟩
    rintro raw rfl
    exact hres.1.1 raw rfl
  · exact fun _ _ _ s P e _ hinv hres => ⟨hinv.congr rfl, hres.1.2⟩

/-- What is known behind a round: there is another one, or the end is reported. -/
def RoundEnds (cfg : Config) (app : Nat) (another : Bool) : HubInv :=
  if another then Own cfg else Reporting cfg (.runForever app)

theorem own_handle {event : WsEvent} :
    Exits streamCount (timely cfg (.runForever app)) (Taken cfg app event) (RoundEnds cfg app)
      (Escaping cfg (.runForever app)) (WebSocketApp.handle cfg app event) := by
  cases event with
  | opened =>
      have hopened : Exits streamCount (timely cfg (.runForever app)) (Taken cfg app .opened)
          (fun _ => Own cfg) (Escaping cfg (.runForever app))
          (setApp app fun a => { a with opened := true }) :=
        Exits.modify fun s P h => h.toOwn.congr rfl
      -- the handshake request can be encoded
      have hmessage : ∀ e, cfg.protocol.encode (.handshake cfg.protocol.handshakeMessage) =
          .error e → ∀ s, isSuperseded s (.runForever app) = false := by
        intro e he
        obtain ⟨raw, hraw⟩ := cfg.protocol.encode_handshake
        rw [hraw] at he
        cases he
      exact Exits.bind hopened fun _ =>
        Exits.bind (own_callbackGoing (Exits.of_throws (escaping_send hmessage))) fun _ =>
          Exits.pure _ fun _ _ hown => hown
  | message raw =>
      have hframe : Exits streamCount (timely cfg (.runForever app)) (Taken cfg app (.message raw))
          (fun _ => Own cfg) (Escaping cfg (.runForever app)) (onMessage cfg app raw) := by
        intro s P h htaken
        apply own_frame (htaken.sized raw rfl)
        refine ⟨htaken.toOwn, fun hsuperseded => ?_⟩
        simpa [mayGoOn, or_assoc] using htaken.allowed hsuperseded
      exact Exits.bind (own_callbackGoing hframe) fun _ => Exits.pure _ fun _ _ hown => hown
  | failed e =>
      have hsilent : Exits streamCount (timely cfg (.runForever app)) (Taken cfg app (.failed e))
          (fun _ => Escaping cfg (.runForever app) e) (Escaping cfg (.runForever app))
          (setApp app fun a => { a with silent := true }) := by
        apply Exits.modify
        intro s P h
        have hescaping : Escaping cfg (.runForever app) e s P := ⟨h.toOwn, h.allowed⟩
        exact hescaping.congr rfl rfl
      exact Exits.bind hsilent fun _ => Exits.raise fun _ _ h => h
  | closed =>
      have hsilent : Exits streamCount (timely cfg (.runForever app)) (Taken cfg app .closed)
          (fun _ => Reporting cfg (.runForever app)) (Escaping cfg (.runForever app))
          (setApp app fun a => { a with silent := true }) := by
        apply Exits.modify
        intro s P h
        have hreporting : Reporting cfg (.runForever app) s P := by
          refine ⟨h.toOwn, fun hsuperseded => ?_⟩
          simpa [mayGoOn] using h.allowed hsuperseded
        exact hreporting.congr rfl
      exact Exits.bind hsilent fun _ => Exits.pure _ fun _ _ h => h

theorem own_disconnect :
    Exits m (timely cfg (.runForever app)) (Escaping cfg (.runForever app) e) (RoundEnds cfg app)
      (fun _ => Reporting cfg (.runForever app)) (WebSocketApp.disconnect app e) := by
  refine Exits.ite (fun _ => ?_) fun he => Exits.raise fun s P h => h.reporting (by simpa using he)
  have hover : Exits m (timely cfg (.runForever app)) (Covering cfg (.runForever app))
      (fun _ => Reporting cfg (.runForever app)) (fun _ => Reporting cfg (.runForever app))
      (WebSocketApp.callback app true (onSocketError (.failed app true))) :=
    own_callbackOver own_failedOver (fun _ _ _ _ h => h.covering) (fun _ _ _ h _ => h)
      fun _ _ h => h
  exact Exits.bind (hover.of_weaker fun s P h => h.covering) fun _ => Exits.pure _ fun _ _ h => h

theorem own_round :
    Exits streamCount (timely cfg (.runForever app)) (Own cfg) (RoundEnds cfg app)
      (fun _ => Reporting cfg (.runForever app)) (WebSocketApp.round cfg app) :=
  Exits.tryCatch (Exits.bind own_nextEvent fun _ => own_handle) fun _ => own_disconnect

/-- What is known of an exception of `on_close`. -/
theorem own_onClosed :
    Exits m (timely cfg (.runForever app)) (Reporting cfg (.runForever app)) (fun _ => Own cfg)
      (fun e s P => Own cfg s P ∧ (e.isException = true → Covering cfg (.runForever app) s P))
      (onClosed app) := by
  refine Exits.bind (own_reportEnd fun _ => rfl) fun _ => Exits.get_bind fun s =>
    Exits.when (fun _ => ?_) ?_
  · apply Exits.perform
    · rintro s' P ⟨rfl, hown, -⟩
      exact hown.congr rfl
    · exact fun _ _ _ _ _ _ _ hinv _ => hinv.congr rfl
    · intro _ _ _ s P e _ hinv hres
      have hown : Own cfg s P := hinv.congr rfl
      refine ⟨hown, fun he => ?_⟩
      have hescaping : Escaping cfg (.runForever app) e s P := by
        refine ⟨hown, fun hsuperseded => ?_⟩
        have hallowed : mayReturn cfg s (.callback (.onClose (.closed app))) (.error e) = true :=
          hres.1.2 hsuperseded
        simpa [mayReturn, Hub.isRestartStep, mayGoOn, he] using hallowed
      exact hescaping.covering
  · rintro - s' P ⟨rfl, hown, -⟩
    exact hown

theorem own_teardown :
    Exits m (timely cfg (.runForever app)) (Reporting cfg (.runForever app)) (fun _ => Own cfg)
      (fun _ => Own cfg) (WebSocketApp.teardown app) := by
  have hsilent : Exits m (timely cfg (.runForever app)) (Reporting cfg (.runForever app))
      (fun _ => Reporting cfg (.runForever app)) (fun _ => Own cfg)
      (setApp app fun a => { a with silent := true }) :=
    Exits.modify fun s P h => h.congr rfl
  have hclosed : Exits m (timely cfg (.runForever app)) (Reporting cfg (.runForever app))
      (fun _ => Own cfg) (fun _ => Own cfg) (WebSocketApp.callback app true (onClosed app)) :=
    own_callbackOver own_onClosed (fun _ _ _ he h => h.2 he) (fun _ _ _ h _ => h.1)
      fun _ _ h => h.toOwn
  have hended : Exits m (timely cfg (.runForever app)) (Own cfg) (fun _ => Own cfg)
      (fun _ => Own cfg) (setApp app fun a => { a with ended := true }) :=
    Exits.modify fun s P h => h.congr rfl
  exact Exits.bind hsilent fun _ => Exits.finally_ hclosed (fun _ => hended) fun _ => hended

theorem own_endRound {r : Except Exc Bool} :
    Exits m (timely cfg (.runForever app)) (RoundEnds cfg app (r.toOption.getD false))
      (fun _ => Own cfg) (fun _ => Own cfg) (WebSocketApp.endRound app r) := by
  have hend : ∀ r : Except Exc Bool, Exits m (timely cfg (.runForever app))
      (Reporting cfg (.runForever app)) (fun _ => Own cfg) (fun _ => Own cfg)
      (WebSocketApp.teardown app >>= fun _ => ofExcept r) := fun r =>
    Exits.bind own_teardown fun _ => Exits.ofExcept (fun _ _ _ _ h => h) fun _ _ _ _ h => h
  rcases r with e | _ | _
  · exact hend _
  · exact hend _
  · exact Exits.pure _ fun _ _ h => h

theorem own_runForever :
    Exits streamCount (timely cfg (.runForever app)) (Own cfg) (fun _ => Own cfg)
      (fun _ => Own cfg) (WebSocketApp.runForever cfg app) := by
  refine Exits.get_bind fun s => Exits.of_weaker (I := Own cfg) ?_ ?_
  · refine Exits.ite (fun _ => ?_) fun _ => ?_
    · exact Exits.bind (J := fun _ => Own cfg) (Exits.modify fun s P h => h.congr rfl) fun _ =>
        Exits.pure _ fun _ _ h => h
    · have hround : Exits streamCount (timely cfg (.runForever app)) (Own cfg)
          (fun r => RoundEnds cfg app (r.toOption.getD false)) (fun _ => Own cfg)
          (WebSocketApp.round cfg app).attempt := Exits.attempt own_round
      exact Exits.bind (J := fun _ => Own cfg) (Exits.modify fun s P h => h.congr rfl) fun _ =>
        Exits.bind hround fun _ => own_endRound
  · rintro s' P ⟨rfl, h⟩
    exact h

/-! ## Runs -/

theorem ownView_eq_of_others (hs : offOthers s' = offOthers s) : ownView s' = ownView s := by
  have hview : ∀ s, ownView s = ownView (offOthers s) := fun s => by simp [ownView, offOthers]
  rw [hview s', hs, ← hview]

theorem own_objects (ht : ∀ s, isSuperseded s t = false) :
    KeepsObjects (timely cfg t) (Own cfg) cfg where
  send := fun _ => (escaping_send fun _ _ => ht).keeps
  sleep := fun _ => own_perform _
  acquire := fun _ => own_perform _
  modify := fun hf => own_modify fun s => ownView_eq_of_others (hf s)
  auth := own_perform _
  token := fun _ => own_modify fun _ => rfl
  ids := fun _ => own_modify fun _ => rfl
  register := fun _ hobject hown =>
    ⟨hown.toServiceable.register hobject, hown.state, hown.handshakeReceived, hown.handler,
      hown.wired⟩
  create := fun event uuid hown =>
    ⟨hown.toServiceable.streams event uuid, hown.state, hown.handshakeReceived, hown.handler,
      hown.wired⟩
  subscribe := fun _ _ hcallable hown =>
    ⟨hown.toServiceable.subscribe hcallable, hown.state, hown.handshakeReceived, hown.handler,
      hown.wired⟩

theorem own_body (hsound : t.isSound = true) :
    Exits streamCount (timely cfg t) (Own cfg) (fun _ => Own cfg) (fun _ => Own cfg)
      (Hub.body cfg t) := by
  cases t with
  | start =>
      exact Exits.of_keeps (keeps_once (Keeps.bind (own_modify fun _ => rfl) fun _ =>
        (throws_start own_restart givingUp_restart).keeps))
  | stop =>
      exact Exits.of_keeps (keeps_once (Keeps.finally_ (escaping_stop (by decide)).keeps
        (own_modify fun _ => rfl)))
  | runForever app => exact own_runForever
  | _ => exact Exits.of_keeps ((own_objects fun _ => rfl).body hsound (by simp) (by simp) (by simp))

theorem Own.init (cfg : Config) : Own cfg (State.new cfg) 0 := by
  refine ⟨⟨?_, ?_⟩, rfl, rfl, ?_, ?_⟩ <;> simp [State.new]

/-- The invariant holds along every timely run. -/
theorem own_proof : ProofFrom (hub cfg) streamCount (Timely cfg) (Own cfg)
    fun _ _ _ _ => True where
  init := .init cfg
  fork := fun _ _ _ hown _ _ => hown.congr rfl
  body := by
    intro s P t hinv hstart
    have hown : Own cfg (Hub.enter t s) P := hinv.congr rfl
    have hends : ∀ (r : Except Exc Bool) (s : State) (P : Multiset (Label Op Activity))
        (h : List (Logged State Exc Op Op.Result)),
        Exit (fun _ => Own cfg) (fun _ => Own cfg) r s P h →
          Ends (Own cfg) (fun _ _ _ _ => True) t r s P h := by
      rintro (e | _ | _) s P h hown
      · exact ⟨trivial, hown⟩
      · exact ⟨trivial, hown⟩
      · exact ⟨trivial, hown.congr rfl⟩
    apply wpFrom_entering (f := Hub.enter t) (fun _ => rfl) rfl fun _ _ h => h
    · rintro s P op r hinv ⟨hresume, hpossible⟩
      exact ⟨hinv.congr rfl, hresume, hpossible⟩
    · exact wpFrom_mono hends (own_body hstart _ P [] hown)

/-- In every timely run `state` and `handshake_received` are as the events of their own
websockets leave them: no websocket that has been replaced has changed them by its end, or by an
exception of a callback. -/
theorem timely_own {w : World State Exc Op Op.Result Activity}
    (h : (hub cfg).Reach (Timely cfg) w) :
    w.shared.state = w.shared.history.ownState ∧
      w.shared.handshakeReceived = w.shared.history.ownHandshake :=
  have hown : Own cfg w.shared w.labels := (own_proof.sound hub_growing h).holds
  ⟨hown.state, hown.handshakeReceived⟩

/-- Where restarts do not overlap, no websocket outlives its replacement. -/
theorem current_of_orderly {w : World State Exc Op Op.Result Activity}
    (h : (hub cfg).Reach (Orderly cfg) w) {l : Label Op Activity} (hl : l ∈ w.labels) :
    isSuperseded w.shared l.thread = false := by
  cases hthread : l.thread with
  | runForever app =>
      have hsingle : Single w.shared w.labels := (single_proof.sound h).holds
      obtain ⟨a, ha, halive⟩ := (owned_reach h).live app l hl (isOf_runForever app l hthread)
      have hws : w.shared.ws = some app := (hsingle.base.stored app a ha halive).1
      simp [isSuperseded, hws]
  | _ => rfl

/-- Otherwise: the connection is stopped and started again, the second handshake is
accepted, and then the first websocket reports that it was closed. -/
theorem late_close :
    ∃ w, (hub (.direct none)).Reach .any w ∧ w.shared.ws = some 1 ∧
      w.shared.history.accepted = [0, 1] ∧ w.shared.history.ownState = .connected ∧
      w.shared.state = .disconnected := by
  have h := (hub (.direct none)).reach_after [.fork .start, .start 0, .start 1,
    .answer 1 (.happened .opened), .answer 1 .done, .start 1,
    .answer 1 (.happened (.message (.text "\x7b\x7d\x1e"))), .start 1, .fork .stop, .start 2,
    .answer 2 .done, .fork .start, .start 3, .start 4, .answer 4 (.happened .opened),
    .answer 4 .done, .start 4, .answer 4 (.happened (.message (.text "\x7b\x7d\x1e"))),
    .answer 1 (.happened .closed)] .start rfl
  exact ⟨_, h, rfl, rfl, rfl, rfl⟩

/-- A connection that was stopped and started again, where the first websocket is closed
only after the second one. -/
theorem timely_own_restart :
    ∃ w, (hub (.direct none)).Reach (Timely (.direct none)) w ∧ w.shared.apps.all (·.ended) = true ∧
      w.shared.state = w.shared.history.ownState ∧
      w.shared.handshakeReceived = w.shared.history.ownHandshake := by
  have h := (hub (.direct none)).reach_within (Timely (.direct none)) [.fork .start, .start 0,
    .start 1, .answer 1 (.happened .opened), .answer 1 .done, .start 1,
    .answer 1 (.happened (.message (.text "\x7b\x7d\x1e"))), .start 1, .fork .stop, .start 2,
    .answer 2 .done, .fork .start, .start 3, .start 4, .answer 4 (.happened .opened),
    .answer 4 .done, .start 4, .answer 4 (.happened .closed),
    .answer 1 (.happened .closed)] .start rfl
  exact ⟨_, h, rfl, timely_own h⟩

end GeventSignalR
