import GeventSignalR.Coop.Can
import GeventSignalR.Hub.System

/-!
# A connection can be established anew

Whatever has happened to a connection, calls of `stop` and `start` and a server that answers
establish it anew.  One new websocket is not always enough: `handshake_received` can stand from an
older one, so that the response of the server is taken for messages; the first write that fails
clears it.

* `Established` is a connection with an open websocket whose handshake was accepted.
* `can_stop`, `can_start`, `can_lose`, `can_open` and `can_accept` are what the greenlets can do.
* `recovers` puts them together.
-/

namespace GeventSignalR

open Coop Coop.Prog

/-- What helps the greenlet of an activity. -/
abbrev helping (t : Activity) (leave : State → Prop) :
    Help State Exc Op Op.Result Answer :=
  ⟨(Hub.decode · t), Hub.enter t, leave⟩

/-- Nobody has closed the websocket or killed its greenlet, and it is not over. -/
structure App.Intact (a : App) : Prop where
  silent : a.silent = false
  closing : a.closing = false
  closed : a.closed = false
  killed : a.killed = false
  ended : a.ended = false

/-- The newest websocket, which does not speak for a connection yet. -/
structure Newest (app : Nat) (opened : Bool) (s : State) : Prop where
  ws : s.ws = some app
  greenlet : s.greenlet = some app
  state : s.state ≠ .connected
  app : ∃ a, s.apps[app]? = some a ∧ a.opened = opened ∧ a.Intact

/-- The connection is established, by a handshake of its newest websocket, which is open. -/
structure Established (app : Nat) (s : State) : Prop where
  ws : s.ws = some app
  state : s.state = .connected
  handshake : s.handshakeReceived = true
  open_ : ∃ a, s.apps[app]? = some a ∧ a.opened = true ∧ a.Intact
  accepted : app ∈ s.history.accepted

variable {cfg : Config} {n : Nat} {t : Activity} {leave : State → Prop} {s : State}
  {ts : List Activity}

namespace WebsocketTransport

/-! ## `stop` and `start` -/

theorem can_stop {Q : Except Exc Unit → State → List Activity → Prop} (site : StopSite)
    (hQ : ∀ s', s'.state ≠ .connected → s.apps.length = s'.apps.length → Q (.ok ()) s' ts) :
    (stop site).Can (helping t leave) Q s ts := by
  unfold stop
  rw [can_bind, can_get]
  dsimp only
  rw [can_when]
  by_cases hconnected : s.state = .connected
  · have hclosed : ∀ s', s.apps.length = s'.apps.length →
        (do setState .disconnected; setHandshakeReceived false : Hub Unit).Can (helping t leave)
          Q s' ts := fun s' hlength => hQ _ (by simp) hlength
    rw [if_pos (by simpa using hconnected)]
    rw [can_bind]
    refine (can_modify _).mpr ?_
    unfold closeWs
    rw [can_bind, can_bind, can_get]
    cases hws : s.ws with
    | none => exact hclosed _ rfl
    | some app =>
        show (do setApp app _; perform (Op.wsClose app site); setApp app _ : Hub Unit).Can _ _ _ _
        rw [can_bind]
        refine (can_modify _).mpr ?_
        rw [can_bind, can_perform]
        exact .inr ⟨.done, .ok (), rfl, hclosed _ (by simp [Hub.enter])⟩
  · rw [if_neg (by simpa using hconnected)]
    exact hQ s hconnected rfl

/-- The answer of a server that neither gives the connection an id nor sends it elsewhere. -/
def plainResponse : Response :=
  ⟨200, .ok [], .ok _⟩

/-- What the rest of `start` depends on stays as it was. -/
structure SameSockets (s s' : State) : Prop where
  apps : s'.apps.length = s.apps.length
  state : s'.state = s.state
  handshake : s'.handshakeReceived = s.handshakeReceived

theorem can_negotiate {Q : Except Exc Unit → State → List Activity → Prop}
    (hQ : ∀ s', SameSockets s s' → Q (.ok ()) s' ts) :
    (negotiate cfg).Can (helping t leave) Q s ts := by
  unfold negotiate post
  rw [can_bind, can_get]
  dsimp only
  rw [can_bind, can_perform]
  refine .inr ⟨.response plainResponse, .ok plainResponse, rfl, ?_⟩
  dsimp only
  rw [can_bind, can_get]
  dsimp only
  rw [can_bind, can_ofExcept]
  exact hQ _ ⟨rfl, rfl, rfl⟩

theorem can_createApp {Q : Except Exc Unit → State → List Activity → Prop} {n : Nat}
    (hn : s.apps.length = n) (hstate : s.state ≠ .connected)
    (hQ : ∀ s', Newest n false s' → s'.handshakeReceived = s.handshakeReceived →
      Q (.ok ()) s' (ts ++ [.runForever n])) :
    createApp.Can (helping t leave) Q s ts := by
  subst hn
  refine hQ _ ⟨rfl, rfl, hstate, newApp s.url s.oldHeaders.length (!s.history.current.isStart), ?_, rfl,
    ⟨rfl, rfl, rfl, rfl, rfl⟩⟩ rfl
  simp

theorem can_start {Q : Except Exc Unit → State → List Activity → Prop}
    (hstate : s.state ≠ .connected)
    (hQ : ∀ s', Newest s.apps.length false s' → s'.handshakeReceived = s.handshakeReceived →
      Q (.ok ()) s' (ts ++ [.runForever s.apps.length])) :
    (start cfg).Can (helping t leave) Q s ts := by
  have hrest : ∀ s', SameSockets s s' →
      (do let s ← get
          when (s.state ≠ .connected) do setState .connecting; createApp : Hub Unit).Can
            (helping t leave) Q s' ts := by
    intro s' hsame
    rw [can_bind, can_get]
    dsimp only
    rw [can_when, if_pos (by simpa [hsame.state] using hstate)]
    rw [can_bind, setState, can_bind, can_modify, can_when, if_neg (by simp)]
    refine can_createApp hsame.apps (by simp) fun s'' hnewest hhandshake => ?_
    exact hQ s'' hnewest (hhandshake.trans hsame.handshake)
  unfold start
  rw [can_bind, can_when]
  split_ifs
  · exact can_negotiate hrest
  · exact hrest s ⟨rfl, rfl, rfl⟩

end WebsocketTransport

namespace Connection

theorem can_refreshTokenMaybe {Q : Except Exc Unit → State → List Activity → Prop}
    (site : AuthSite) (hQ : ∀ s', WebsocketTransport.SameSockets s s' → Q (.ok ()) s' ts) :
    (refreshTokenMaybe cfg site).Can (helping t leave) Q s ts := by
  unfold refreshTokenMaybe authFunction
  rw [can_when]
  split_ifs
  · rw [can_bind, can_perform]
    exact .inr ⟨.token none, .ok none, rfl, hQ _ ⟨rfl, rfl, rfl⟩⟩
  · exact hQ s ⟨rfl, rfl, rfl⟩

/-- `start` makes a new websocket of a connection that is not established. -/
theorem can_start {Q : Except Exc Unit → State → List Activity → Prop}
    (hstate : s.state ≠ .connected)
    (hQ : ∀ s', Newest s.apps.length false s' → s'.handshakeReceived = s.handshakeReceived →
      Q (.ok ()) s' (ts ++ [.runForever s.apps.length])) :
    (start cfg).Can (helping t leave) Q s ts := by
  unfold start
  rw [can_bind]
  refine can_refreshTokenMaybe .start fun s' hsame => ?_
  refine WebsocketTransport.can_start (by rw [hsame.state]; exact hstate) ?_
  rw [hsame.apps, hsame.handshake]
  exact hQ

end Connection

/-! ## The greenlet of the new websocket -/

/-- A change of the newest websocket. -/
theorem Newest.setApp {app : Nat} {opened opened' : Bool} (h : Newest app opened s) {f : App → App}
    (hopened : ∀ a, a.opened = opened → (f a).opened = opened')
    (hf : ∀ a : App, a.Intact → (f a).Intact) :
    Newest app opened' { s with apps := s.apps.modify app f } := by
  obtain ⟨a, ha, hopen, hintact⟩ := h.app
  exact ⟨h.ws, h.greenlet, h.state, f a, by simp [ha], hopened a hopen, hf a hintact⟩

theorem Newest.opens {app : Nat} (h : Newest app false s) :
    Newest app true { s with apps := s.apps.modify app fun a => { a with opened := true } } :=
  h.setApp (fun _ _ => rfl) fun _ h => ⟨h.1, h.2, h.3, h.4, h.5⟩

theorem Newest.lt {app : Nat} {opened : Bool} (h : Newest app opened s) : app < s.apps.length := by
  obtain ⟨a, ha, -⟩ := h.app
  exact (List.getElem?_eq_some_iff.mp ha).1

theorem Newest.enter {app : Nat} {opened : Bool} (h : Newest app opened s) :
    Newest app opened (Hub.enter t s) :=
  ⟨h.ws, h.greenlet, h.state, h.app⟩

/-- A round of `run_forever` that handles an event and goes on. -/
theorem WebSocketApp.can_runForever {app : Nat} {opened : Bool}
    {Q : Except Exc Bool → State → List Activity → Prop} (event : WsEvent)
    (hnewest : Newest app opened s)
    (hpossible : ∀ a : App, a.opened = opened → a.Intact → Hub.isPossible a event = true)
    (hhandle : ∀ s', Newest app opened s' → s'.handshakeReceived = s.handshakeReceived →
      (handle cfg app event).Can (helping t leave)
        (fun r s' ts' => r = .ok true ∧ Q (.ok true) s' ts') s' ts) :
    (runForever cfg app).Can (helping t leave) Q s ts := by
  obtain ⟨a, ha, hopened, hintact⟩ := hnewest.app
  unfold runForever
  rw [can_bind, can_get]
  dsimp only
  rw [if_neg (by simp [ha, hintact.killed]), can_bind]
  refine (can_modify _).mpr ?_
  have hstarted : Newest app opened
      { s with apps := s.apps.modify app fun a => { a with started := true } } :=
    hnewest.setApp (fun _ h => h) fun _ h => ⟨h.1, h.2, h.3, h.4, h.5⟩
  rw [can_bind, can_attempt]
  unfold round nextEvent
  rw [can_tryCatch, can_bind, can_perform]
  refine .inr ⟨.happened event, .ok event, ?_, ?_⟩
  · obtain ⟨a, ha, hopened, hintact⟩ := hstarted.app
    simp [Hub.decode, ha, hpossible a hopened hintact]
  · refine (hhandle _ hstarted.enter rfl).mono ?_
    rintro r s' ts' ⟨rfl, hQ⟩
    exact hQ

namespace WebsocketTransport

/-- The transport is not connected, its handshake was not received, and so many websockets have been
created. -/
structure Closed (n : Nat) (s : State) : Prop where
  state : s.state ≠ .connected
  handshake : s.handshakeReceived = false
  apps : n ≤ s.apps.length

/-- An answer to the write of a message. -/
theorem can_write {app : Nat} {opened : Bool} {message : Outgoing}
    {Q : Except Exc Unit → State → List Activity → Prop} (answer : Answer) (r : Except Exc Unit)
    (hdecode : ∀ s, Hub.decode s t (.wsSend app message) answer = some r)
    (hnewest : Newest app opened s)
    (hQ : ∀ s', Newest app opened s' → s'.handshakeReceived = s.handshakeReceived → Q r s' ts) :
    (write app message).Can (helping t leave) Q s ts := by
  unfold write record
  rw [can_bind]
  refine (can_modify _).mpr ?_
  rw [can_tryCatch, can_perform]
  refine .inr ⟨answer, r, hdecode _, ?_⟩
  have hwritten : Newest app opened (Hub.enter t { s with history := { s.history with
      handed := s.history.handed ++ [⟨app, message, s.history.accepted.contains app⟩] } }) :=
    ⟨hnewest.ws, hnewest.greenlet, hnewest.state, hnewest.app⟩
  cases r with
  | ok _ => exact hQ _ hwritten rfl
  | error e => exact hQ _ (hwritten.setApp (fun _ h => h) fun _ h => ⟨h.1, h.2, h.3, h.4, h.5⟩) rfl

/-- The handshake request is written, or the write fails. -/
theorem can_transmit {app : Nat} {opened : Bool}
    {Q : Except Exc Unit → State → List Activity → Prop} (answer : Answer) (r : Except Exc Unit)
    (hdecode : ∀ s message, Hub.decode s t (.wsSend app message) answer = some r)
    (hnewest : Newest app opened s)
    (hQ : ∀ s', Newest app opened s' → s'.handshakeReceived = s.handshakeReceived → Q r s' ts) :
    (transmit cfg (.handshake cfg.protocol.handshakeMessage)).Can (helping t leave) Q s ts := by
  obtain ⟨raw, hraw⟩ := cfg.protocol.encode_handshake
  unfold transmit ws
  simp only [can_bind, can_get, hnewest.ws, Option.elim, can_pure, can_ofExcept, hraw]
  refine can_write answer r (fun s => hdecode s _) hnewest fun s' hnewest' hhandshake => ?_
  cases r with
  | ok _ => exact hQ _ ⟨hnewest'.ws, hnewest'.greenlet, hnewest'.state, hnewest'.app⟩ hhandshake
  | error e => exact hQ _ hnewest' hhandshake

theorem can_send {app : Nat} {opened : Bool} {Q : Except Exc Unit → State → List Activity → Prop}
    (hnewest : Newest app opened s)
    (hQ : ∀ s', Newest app opened s' → s'.handshakeReceived = s.handshakeReceived →
      Q (.ok ()) s' ts) :
    (send cfg (.handshake cfg.protocol.handshakeMessage)).Can (helping t leave) Q s ts := by
  unfold send
  rw [can_tryCatch]
  exact can_transmit .done (.ok ()) (fun _ _ => rfl) hnewest hQ

/-- The greenlet of a websocket is killed, which takes time. -/
theorem can_reconnect {app : Nat} {Q : Except Exc Unit → State → List Activity → Prop}
    (hclosed : Closed n s) (hgreenlet : s.greenlet = some app) :
    (reconnect cfg).Can (helping t (Closed n)) Q s ts := by
  unfold reconnect stopLost Connection.stop stop
  rw [can_bind, can_tryCatch, can_bind, can_get]
  dsimp only
  rw [can_when, if_neg (by simpa using hclosed.state)]
  dsimp only
  unfold killGreenlet
  simp only [can_bind, can_get, hgreenlet, Option.elim]
  exact .inl ⟨hclosed.state, hclosed.handshake, by simpa using hclosed.apps⟩

/-- `handle_reconnect` calls a user function, or kills a greenlet. -/
theorem can_handleReconnect {app : Nat} {handler : ReconnectionHandler}
    {Q : Except Exc Unit → State → List Activity → Prop} (hclosed : Closed n s)
    (hgreenlet : s.greenlet = some app) (hhandler : s.reconnectionHandler = some handler) :
    (handleReconnect cfg).Can (helping t (Closed n)) Q s ts := by
  unfold handleReconnect setReconnecting reconnectionHandler
  simp only [can_bind, can_get, hhandler, Option.elim, can_pure, can_when, can_tryCatch]
  split_ifs
  · exact .inl ⟨hclosed.state, hclosed.handshake, hclosed.apps⟩
  · refine (can_modify _).mpr ?_
    dsimp only
    exact can_reconnect ⟨hclosed.state, hclosed.handshake, hclosed.apps⟩ hgreenlet

/-- The connection is lost, until something is left to somebody else. -/
theorem can_connectionLost {app : Nat} (e : Exc) (hgreenlet : s.greenlet = some app)
    (hn : n ≤ s.apps.length) :
    (connectionLost cfg e).Can (helping t (Closed n))
      (fun r s' _ => (∃ text, r = .error (.valueError text)) ∧ Closed n s') s ts := by
  unfold connectionLost
  rw [can_bind]
  refine (can_modify _).mpr ?_
  rw [can_bind]
  have hrest : ∀ s', Closed n s' → s'.greenlet = some app →
      (do let s ← get
          if s.reconnectionHandler.isNone then reportLost e else handleReconnect cfg : Hub Unit).Can
        (helping t (Closed n))
        (fun r s' _ => (∃ text, r = .error (.valueError text)) ∧ Closed n s') s' ts := by
    intro s' hlost hgreenlet'
    rw [can_bind, can_get]
    dsimp only
    cases hhandler : s'.reconnectionHandler with
    | none =>
        show (reportLost e).Can _ _ s' ts
        unfold reportLost
        rw [can_bind, can_get]
        dsimp only
        rw [can_bind, can_when]
        split_ifs
        · exact .inl hlost
        · exact ⟨⟨_, rfl⟩, hlost⟩
    | some handler => exact can_handleReconnect hlost hgreenlet' hhandler
  exact hrest _ ⟨by simp, rfl, hn⟩ hgreenlet

theorem can_send_lost {app : Nat} {opened : Bool} (hnewest : Newest app opened s) (hn : n ≤ app) :
    (send cfg (.handshake cfg.protocol.handshakeMessage)).Can (helping t (Closed n))
      (fun r s' _ => (∃ text, r = .error (.valueError text)) ∧ Closed n s') s ts := by
  unfold send
  rw [can_tryCatch]
  refine can_transmit (.raised .connectionClosed) (.error .connectionClosed) (fun _ _ => rfl) hnewest
    fun s' hnewest' _ => ?_
  exact can_connectionLost _ hnewest'.greenlet (hn.trans hnewest'.lt.le)

/-- `on_socket_error` of a websocket that goes on. -/
theorem can_onSocketError (site : CloseSite) (hclosed : Closed n s) :
    (onSocketError site).Can (helping t (Closed n))
      (fun r s' _ => r = .ok () ∧ Closed n s') s ts := by
  unfold onSocketError
  rw [can_bind, can_get]
  dsimp only
  rw [can_bind, can_when]
  split_ifs
  · exact .inl hclosed
  · unfold reportEnd
    dsimp only
    rw [can_bind, can_get]
    dsimp only
    split_ifs
    · exact ⟨rfl, by simp, hclosed.handshake, hclosed.apps⟩
    · exact ⟨rfl, by simp, hclosed.handshake, hclosed.apps⟩

theorem can_handshakeDone {app : Nat} {Q : Except Exc Unit → State → List Activity → Prop}
    (h : Established app s) (hQ : ∀ s' ts', Established app s' → Q (.ok ()) s' ts') :
    handshakeDone.Can (helping t leave) Q s ts := by
  unfold handshakeDone
  rw [can_bind, can_get]
  dsimp only
  rw [can_when]
  split_ifs
  · rw [can_bind]
    refine (can_modify _).mpr ?_
    dsimp only
    rw [can_when]
    split_ifs
    · exact hQ _ _ ⟨h.ws, h.state, h.handshake, h.open_, h.accepted⟩
    · exact hQ _ _ ⟨h.ws, h.state, h.handshake, h.open_, h.accepted⟩
  · exact hQ s ts h

theorem can_acceptHandshake {app : Nat} {Q : Except Exc Unit → State → List Activity → Prop}
    (hnewest : Newest app true s) (hQ : ∀ s' ts', Established app s' → Q (.ok ()) s' ts') :
    (acceptHandshake app).Can (helping t leave) Q s ts := by
  obtain ⟨hws, -, -, hopen⟩ := hnewest
  unfold acceptHandshake setState record
  rw [can_bind]
  refine (can_modify _).mpr ?_
  simp only [can_bind, can_modify, can_when, can_get, decide_true, if_true]
  exact can_handshakeDone ⟨hws, rfl, rfl, hopen, by simp⟩ hQ

/-- The handshake response is accepted. -/
theorem can_onMessage {app : Nat} {Q : Except Exc Unit → State → List Activity → Prop} {raw : Raw}
    {response : HandshakeResponseMessage}
    (hdecode : cfg.protocol.decodeHandshake raw = .ok (response, []))
    (haccepted : isAccepted response = true) (hnewest : Newest app true s)
    (hhandshake : s.handshakeReceived = false)
    (hQ : ∀ s' ts', Established app s' → Q (.ok ()) s' ts') :
    (onMessage cfg app raw).Can (helping t leave) Q s ts := by
  have hreport : ∀ s' ts', Established app s' → reportOpen.Can (helping t leave)
      (fun r s ts => r = .ok () ∧ Established app s) s' ts' := by
    intro s' ts' h
    unfold reportOpen call
    rw [can_bind, can_get]
    dsimp only
    rw [can_when]
    split_ifs
    · exact .inr ⟨.done, .ok (), rfl, rfl, h.ws, rfl, h.handshake, h.open_, h.accepted⟩
    · exact ⟨rfl, h⟩
  unfold onMessage receive record
  rw [can_bind, can_bind, can_get]
  dsimp only
  rw [can_bind]
  refine (can_modify _).mpr ?_
  dsimp only
  rw [hhandshake]
  unfold interpret evaluateHandshake judge
  simp only [Bool.not_false, if_true, can_bind, can_ofExcept, hdecode, haccepted]
  refine can_acceptHandshake ⟨hnewest.ws, hnewest.greenlet, hnewest.state, hnewest.app⟩
    fun s' ts' hestablished => ?_
  refine (hreport s' ts' hestablished).mono ?_
  rintro r s'' ts'' ⟨rfl, h⟩
  exact hQ s'' ts'' h

end WebsocketTransport

open WebsocketTransport

/-! ## The rounds of the greenlet -/

variable {app : Nat}

/-- A websocket opens, and the write of the handshake request fails. -/
theorem WebSocketApp.can_lose (hnewest : Newest app false s) (hn : n ≤ app) :
    (runForever cfg app).Can (helping t (Closed n)) (fun _ s' _ => Closed n s') s ts := by
  refine can_runForever .opened hnewest (fun a hopened hintact => ?_) fun s' hnewest' _ => ?_
  · simp [Hub.isPossible, hopened, hintact.silent, hintact.ended]
  · unfold handle callback onOpen
    rw [can_bind]
    refine (can_modify _).mpr ?_
    dsimp only
    rw [can_bind, can_tryCatch]
    refine (can_send_lost hnewest'.opens hn).mono ?_
    rintro r s'' ts'' ⟨⟨text, rfl⟩, hclosed⟩
    have hexception : (Exc.valueError text).isException = true := rfl
    dsimp only
    rw [if_pos hexception]
    refine (can_onSocketError _ hclosed).mono ?_
    rintro r s₃ ts₃ ⟨rfl, hclosed'⟩
    exact ⟨rfl, hclosed'⟩

/-- A websocket opens, and the handshake request is written. -/
theorem WebSocketApp.can_open {Q : Except Exc Bool → State → List Activity → Prop}
    (hnewest : Newest app false s)
    (hQ : ∀ s', Newest app true s' → s'.handshakeReceived = s.handshakeReceived →
      Q (.ok true) s' ts) :
    (runForever cfg app).Can (helping t leave) Q s ts := by
  refine can_runForever .opened hnewest (fun a hopened hintact => ?_)
    fun s' hnewest' hhandshake => ?_
  · simp [Hub.isPossible, hopened, hintact.silent, hintact.ended]
  · unfold handle callback onOpen
    rw [can_bind]
    refine (can_modify _).mpr ?_
    dsimp only
    rw [can_bind, can_tryCatch]
    refine can_send hnewest'.opens fun s'' hnewest'' hhandshake' => ?_
    exact ⟨rfl, hQ s'' hnewest'' (hhandshake'.trans hhandshake)⟩

/-- The response to the handshake request arrives. -/
theorem WebSocketApp.can_accept {Q : Except Exc Bool → State → List Activity → Prop} {raw : Raw}
    {response : HandshakeResponseMessage}
    (hdecode : cfg.protocol.decodeHandshake raw = .ok (response, []))
    (haccepted : isAccepted response = true) (hnewest : Newest app true s)
    (hhandshake : s.handshakeReceived = false)
    (hQ : ∀ s' ts', Established app s' → Q (.ok true) s' ts') :
    (runForever cfg app).Can (helping t leave) Q s ts := by
  refine can_runForever (.message raw) hnewest (fun a hopened hintact => ?_)
    fun s' hnewest' hhandshake' => ?_
  · simp [Hub.isPossible, hopened, hintact.silent, hintact.closed, hintact.ended]
  · unfold handle callback
    rw [can_bind, can_tryCatch]
    refine can_onMessage hdecode haccepted hnewest' (hhandshake'.trans hhandshake)
      fun s'' ts'' hestablished => ?_
    exact ⟨rfl, hQ s'' ts'' hestablished⟩

/-! ## All greenlets -/

/-- What a call of a public method can do. -/
theorem Hub.can_call {w : World State Exc Op Op.Result Activity}
    {Q : Except Exc Bool → State → List Activity → Prop} (hpublic : isPublic t = true)
    (hcan : (body cfg t).Can (helping t leave) Q (enter t w.shared) []) :
    ∃ w', (hub cfg).Leads w [t] w' ∧ (leave w'.shared ∨ ∃ r ts, Q r w'.shared ts ∧
      ∀ t' ∈ ts, ∃ g : Nat, w'.pool[g]? = some (World.newGreenlet t')) :=
  System.can_fork hpublic hcan.entering

/-- What a round of the greenlet of a websocket can do. -/
theorem Hub.can_round {w : World State Exc Op Op.Result Activity} {g : Nat}
    {Q : Except Exc Bool → State → List Activity → Prop}
    (hg : w.pool[g]? = some (World.newGreenlet (.runForever app)))
    (hcan : (WebSocketApp.runForever cfg app).Can (helping (.runForever app) leave) Q
      (enter (.runForever app) w.shared) []) :
    ∃ w', (hub cfg).Leads w [] w' ∧ (leave w'.shared ∨ ∃ r ts, Q r w'.shared ts ∧
      (r = .ok true → w'.pool[g]? = some (World.newGreenlet (.runForever app)))) := by
  have hbody : ((hub cfg).body (.runForever app)).Can
      ⟨fun s => (hub cfg).decode s (.runForever app), id, leave⟩ Q w.shared [] := hcan.entering
  obtain ⟨w', hleads, harrived⟩ := System.can_start hg hbody
  refine ⟨w', hleads, harrived.imp_right ?_⟩
  rintro ⟨r, ts, hQ, hpool⟩
  refine ⟨r, ts, hQ, ?_⟩
  rintro rfl
  have hlt : g < w.pool.length := (List.getElem?_eq_some_iff.mp hg).1
  rw [hpool, List.getElem?_append_left (by simpa using hlt)]
  simp [hlt, World.restarted, World.newGreenlet]

variable {w : World State Exc Op Op.Result Activity}

/-- `stop` leaves the connection not established. -/
theorem Hub.leads_stop (cfg : Config) :
    ∃ w', (hub cfg).Leads w [.stop] w' ∧ w'.shared.state ≠ .connected ∧
      w.shared.apps.length = w'.shared.apps.length := by
  have hcan : (body cfg .stop).Can (helping .stop fun _ => False)
      (fun _ s' _ => s'.state ≠ .connected ∧ w.shared.apps.length = s'.apps.length)
      (enter .stop w.shared) [] := by
    unfold body once Connection.stop
    rw [can_bind, can_finally]
    exact can_stop .user fun s' hstate hlength => ⟨hstate, hlength⟩
  obtain ⟨w', hleads, harrived⟩ := can_call rfl hcan
  obtain ⟨-, -, ⟨hstate, hlength⟩, -⟩ := harrived.resolve_left id
  exact ⟨w', hleads, hstate, hlength⟩

/-- `start` makes a new websocket, unless the connection is established. -/
theorem Hub.leads_start (hstate : w.shared.state ≠ .connected) :
    ∃ w', (hub cfg).Leads w [.start] w' ∧ Newest w.shared.apps.length false w'.shared ∧
      w'.shared.handshakeReceived = w.shared.handshakeReceived ∧
      ∃ g : Nat, w'.pool[g]? = some (World.newGreenlet (.runForever w.shared.apps.length)) := by
  have hcan : (body cfg .start).Can (helping .start fun _ => False)
      (fun _ s' ts => Newest w.shared.apps.length false s' ∧
        s'.handshakeReceived = w.shared.handshakeReceived ∧
          .runForever w.shared.apps.length ∈ ts) (enter .start w.shared) [] := by
    unfold body once record
    rw [can_bind, can_bind]
    refine (can_modify _).mpr ?_
    refine Connection.can_start hstate fun s' hnewest hhandshake => ?_
    exact ⟨hnewest, hhandshake, List.mem_append_right _ (List.mem_singleton.mpr rfl)⟩
  obtain ⟨w', hleads, harrived⟩ := can_call rfl hcan
  obtain ⟨r, ts, ⟨hnewest, hhandshake, hmem⟩, hpool⟩ := harrived.resolve_left id
  exact ⟨w', hleads, hnewest, hhandshake, hpool _ hmem⟩

section greenlet

variable {g : Nat} (hg : w.pool[g]? = some (World.newGreenlet (.runForever app)))

include hg

theorem Hub.leads_lose (hnewest : Newest app false w.shared) (hn : n ≤ app) :
    ∃ w', (hub cfg).Leads w [] w' ∧ Closed n w'.shared := by
  obtain ⟨w', hleads, harrived⟩ := can_round hg (WebSocketApp.can_lose hnewest.enter hn)
  rcases harrived with hleft | ⟨-, -, hended, -⟩
  · exact ⟨w', hleads, hleft⟩
  · exact ⟨w', hleads, hended⟩

theorem Hub.leads_open (hnewest : Newest app false w.shared)
    (hhandshake : w.shared.handshakeReceived = false) :
    ∃ w', (hub cfg).Leads w [] w' ∧ Newest app true w'.shared ∧
      w'.shared.handshakeReceived = false ∧
        w'.pool[g]? = some (World.newGreenlet (.runForever app)) := by
  have hcan : (WebSocketApp.runForever cfg app).Can (helping (.runForever app) fun _ => False)
      (fun r s' _ => r = .ok true ∧ Newest app true s' ∧ s'.handshakeReceived = false)
      (enter (.runForever app) w.shared) [] :=
    WebSocketApp.can_open hnewest.enter fun s' hopen hsame => ⟨rfl, hopen, hsame.trans hhandshake⟩
  obtain ⟨w', hleads, harrived⟩ := can_round hg hcan
  obtain ⟨r, -, ⟨rfl, hopen, hhandshake'⟩, hpool⟩ := harrived.resolve_left id
  exact ⟨w', hleads, hopen, hhandshake', hpool rfl⟩

theorem Hub.leads_accept {raw : Raw} {response : HandshakeResponseMessage}
    (hdecode : cfg.protocol.decodeHandshake raw = .ok (response, []))
    (haccepted : isAccepted response = true) (hnewest : Newest app true w.shared)
    (hhandshake : w.shared.handshakeReceived = false) :
    ∃ w', (hub cfg).Leads w [] w' ∧ Established app w'.shared := by
  have hcan : (WebSocketApp.runForever cfg app).Can (helping (.runForever app) fun _ => False)
      (fun _ s' _ => Established app s') (enter (.runForever app) w.shared) [] :=
    WebSocketApp.can_accept hdecode haccepted hnewest.enter hhandshake fun _ _ h => h
  obtain ⟨w', hleads, harrived⟩ := can_round hg hcan
  obtain ⟨-, -, hestablished, -⟩ := harrived.resolve_left id
  exact ⟨w', hleads, hestablished⟩

end greenlet

/-- Whatever has happened, the connection can be established anew: one call of `stop` and two of
`start` lead to an open websocket that did not exist before, if the server accepts a handshake. -/
theorem recovers {raw : Raw} {response : HandshakeResponseMessage}
    (hdecode : cfg.protocol.decodeHandshake raw = .ok (response, []))
    (haccepted : isAccepted response = true) (w : World State Exc Op Op.Result Activity) :
    ∃ choices w', (hub cfg).after w choices = some w' ∧
      choices.flatMap Choice.arrivals = [.stop, .start, .start] ∧
        ∃ app, w.shared.apps.length ≤ app ∧ Established app w'.shared := by
  obtain ⟨w₁, hleads₁, hstate₁, hlength₁⟩ := Hub.leads_stop cfg (w := w)
  -- the first new websocket loses its connection, so that the old handshake is forgotten
  obtain ⟨w₂, hleads₂, hnewest₂, -, g₂, hg₂⟩ := Hub.leads_start hstate₁
  obtain ⟨w₃, hleads₃, hclosed⟩ := Hub.leads_lose hg₂ hnewest₂ hlength₁.le
  -- the second one opens, and its handshake is accepted
  obtain ⟨w₄, hleads₄, hnewest₄, hhandshake₄, g₄, hg₄⟩ := Hub.leads_start hclosed.state
  obtain ⟨w₅, hleads₅, hnewest₅, hhandshake₅, hg₅⟩ :=
    Hub.leads_open hg₄ hnewest₄ (hhandshake₄.trans hclosed.handshake)
  obtain ⟨w₆, hleads₆, hestablished⟩ :=
    Hub.leads_accept hg₅ hdecode haccepted hnewest₅ hhandshake₅
  obtain ⟨choices, hafter, harrivals⟩ :=
    hleads₁.trans (hleads₂.trans (hleads₃.trans (hleads₄.trans (hleads₅.trans hleads₆))))
  exact ⟨choices, w₆, hafter, harrivals, _, hclosed.apps, hestablished⟩

/-- A connection whose websocket has closed, behind an accepted handshake. -/
theorem recovers_closed :
    ∃ w, (hub (.direct none)).Reach .any w ∧ w.shared.state = .disconnected ∧
      w.shared.handshakeReceived = true ∧
      ∃ choices w', (hub (.direct none)).after w choices = some w' ∧
        choices.flatMap Choice.arrivals = [.stop, .start, .start] ∧
          ∃ app, w.shared.apps.length ≤ app ∧ Established app w'.shared := by
  have h := (hub (.direct none)).reach_after [.fork .start, .start 0, .start 1,
    .answer 1 (.happened .opened), .answer 1 .done, .start 1,
    .answer 1 (.happened (.message (.text "\x7b\x7d\x1e"))), .start 1,
    .answer 1 (.happened .closed)] .start rfl
  have hdecode : (Config.direct none).protocol.decodeHandshake (.text "\x7b\x7d\x1e") =
      .ok (⟨.none⟩, []) := rfl
  exact ⟨_, h, rfl, rfl, recovers hdecode rfl _⟩

end GeventSignalR
