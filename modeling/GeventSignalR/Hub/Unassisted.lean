import GeventSignalR.Hub.Restart

/-!
# Connections without automatic reconnect

Without a reconnection handler no greenlet of the package acts on its own: it only runs the
websockets that the user has started.

* `Unassisted` is the invariant, with the positions that no thread is ever at.
* `connectionLost_run`: without a handler, the `except` clause of `send` does not go on to
  `handle_reconnect`.
-/

namespace GeventSignalR

open Coop Coop.Prog

/-- An operation of `handle_reconnect`. -/
def isReconnectStep : Op → Bool
  | .callback .onReconnect => true
  | .wsClose _ .reconnect => true
  | .kill _ => true
  | _ => false

/-- A position of a greenlet that pings, or within `handle_reconnect`. -/
def isAssistance : Label Op Activity → Bool
  | .ready t => isPinging t
  | .blocked t op => isPinging t || isReconnectStep op

/-- Nothing has happened behind the user's back. -/
structure Unassisted (s : State) (P : Multiset (Label Op Activity)) : Prop where
  handler : s.reconnectionHandler = none
  /-- The checker is not running. -/
  running : s.running = false
  /-- No ping was handed to a websocket. -/
  handed : ∀ handed ∈ s.history.handed, handed.message.isPing = false
  /-- `handle_reconnect` has reported nothing and restarted nothing. -/
  reconnects : s.history.reconnects = []
  restarts : s.history.restarts = []
  /-- Only a `start()` of the user has created websockets, and nothing has killed one. -/
  interventions : ∀ i ∈ s.history.interventions, i.greenlet = .start
  apps : ∀ app ∈ s.apps, app.restarted = false ∧ app.killed = false
  positions : ∀ l ∈ P, isAssistance l = false

variable {cfg : Config} {t : Activity} {s s' : State} {P : Multiset (Label Op Activity)} {e : Exc}

/-! ## Leaves -/

/-- What the proof assumes. -/
abbrev unassisted (cfg : Config) (t : Activity) : HubRely :=
  Hub.running cfg .any Unassisted t

/-- The invariant of a thread that runs. -/
structure UnassistedInv (t : Activity) (s : State) (P : Multiset (Label Op Activity)) : Prop where
  holds : Unassisted s P
  current : s.history.current = t
  foreground : isPinging t = false

namespace Unassisted

/-- The part of the state that the invariant is about. -/
def view (s : State) : Bool × Bool × List Handed × List Reconnection × List Nat ×
    List Intervention × List (Bool × Bool) × Activity :=
  (s.reconnectionHandler.isSome, s.running, s.history.handed, s.history.reconnects,
    s.history.restarts, s.history.interventions,
    s.apps.map fun app => (app.restarted, app.killed), s.history.current)

theorem congr (h : Unassisted s P) (hs : view s' = view s) : Unassisted s' P := by
  simp only [view, Prod.mk.injEq] at hs
  obtain ⟨hhandler, hrunning, hhanded, hreconnects, hrestarts, hinterventions, happs, -⟩ := hs
  have hnone : s.reconnectionHandler.isSome = false := by simp [h.handler]
  constructor
  · rw [hnone] at hhandler
    simpa using hhandler
  · rw [hrunning]
    exact h.running
  · rw [hhanded]
    exact h.handed
  · rw [hreconnects]
    exact h.reconnects
  · rw [hrestarts]
    exact h.restarts
  · rw [hinterventions]
    exact h.interventions
  · intro app happ
    have hmem : (app.restarted, app.killed) ∈ s.apps.map fun app => (app.restarted, app.killed) := by
      rw [← happs]
      exact List.mem_map_of_mem happ
    obtain ⟨old, hold, hpair⟩ := List.mem_map.mp hmem
    rw [Prod.mk.injEq] at hpair
    rw [← hpair.1, ← hpair.2]
    exact h.apps old hold
  · exact h.positions

theorem cons (h : Unassisted s P) {l : Label Op Activity} (hl : isAssistance l = false) :
    Unassisted s (l ::ₘ P) where
  handler := h.handler
  running := h.running
  handed := h.handed
  reconnects := h.reconnects
  restarts := h.restarts
  interventions := h.interventions
  apps := h.apps
  positions := by
    intro l' hl'
    rcases Multiset.mem_cons.mp hl' with rfl | hl'
    · exact hl
    · exact h.positions l' hl'

theorem tail {l : Label Op Activity} (h : Unassisted s (l ::ₘ P)) : Unassisted s P where
  handler := h.handler
  running := h.running
  handed := h.handed
  reconnects := h.reconnects
  restarts := h.restarts
  interventions := h.interventions
  apps := h.apps
  positions := fun l hl => h.positions l (Multiset.mem_cons_of_mem hl)

end Unassisted

theorem unassisted_modify {f : State → State}
    (hf : ∀ s, Unassisted.view (f s) = Unassisted.view s) :
    Keeps (unassisted cfg t) (UnassistedInv t) (modify f : Hub Unit) := by
  refine Keeps.modify fun s P h => ⟨h.holds.congr (hf s), ?_, h.foreground⟩
  have hcurrent : (f s).history.current = s.history.current :=
    congrArg (fun v => v.2.2.2.2.2.2.2) (hf s)
  rw [hcurrent]
  exact h.current

/-- No operation of `handle_reconnect` is needed. -/
theorem unassisted_perform {op : Op} (hop : isReconnectStep op = false) :
    Keeps (unassisted cfg t) (UnassistedInv t) (perform op) := by
  apply Keeps.perform
  · intro s P h
    apply h.holds.cons
    simp [isAssistance, h.foreground, hop]
  · intro s P r h hres
    have hme : isAssistance (.blocked t op) = false := h.positions _ (Multiset.mem_cons_self _ _)
    refine ⟨h.tail, hres.1, ?_⟩
    simp only [isAssistance, Bool.or_eq_false_iff] at hme
    exact hme.1

theorem unassisted_fork {app : Nat} :
    Keeps (unassisted cfg t) (UnassistedInv t) (fork (.runForever app) : Hub Unit) :=
  Keeps.fork fun _ _ h => ⟨h.holds.cons rfl, h.current, h.foreground⟩

theorem unassisted_setApp {app : Nat} {f : App → App}
    (hf : ∀ a, ((f a).restarted, (f a).killed) = (a.restarted, a.killed)) :
    Keeps (unassisted cfg t) (UnassistedInv t) (setApp app f) :=
  unassisted_modify fun s => by
    have happs : (s.apps.modify app f).map (fun a => (a.restarted, a.killed)) =
        s.apps.map fun a => (a.restarted, a.killed) := map_modify hf
    simp only [Unassisted.view, happs]

theorem unassisted_setHandler (f : ReconnectionHandler → ReconnectionHandler) :
    Keeps (unassisted cfg t) (UnassistedInv t) (WebsocketTransport.setHandler f) :=
  unassisted_modify fun s => by simp [Unassisted.view]

namespace WebsocketTransport

/-! ## The transport -/

theorem unassisted_setState (value : ConnectionState) :
    Keeps (unassisted cfg t) (UnassistedInv t) (setState value) :=
  Keeps.bind (unassisted_modify fun _ => rfl) fun _ =>
    Keeps.when fun _ => unassisted_modify fun _ => rfl

theorem unassisted_call {callback : Callback} (hcallback : isReconnectStep (.callback callback) = false) :
    Keeps (unassisted cfg t) (UnassistedInv t) (call callback) :=
  unassisted_perform hcallback

theorem unassisted_stop {site : StopSite} (hsite : site ≠ .reconnect) :
    Keeps (unassisted cfg t) (UnassistedInv t) (stop site) := by
  have hclose : ∀ app, isReconnectStep (.wsClose app site) = false := by
    intro app
    cases site with
    | reconnect => exact absurd rfl hsite
    | _ => rfl
  apply keeps_stop
  · intro s P h hI
    have hstopped : Unassisted { s with
        running := false, history := { s.history with established := false } } P :=
      hI.holds.congr (by simp [Unassisted.view, hI.holds.running])
    exact ⟨hstopped, hI.current, hI.foreground⟩
  · exact keeps_closeWs (fun app => unassisted_setApp fun _ => rfl)
      (fun app => unassisted_perform (hclose app)) fun app => unassisted_setApp fun _ => rfl
  · exact unassisted_setState _
  · exact unassisted_modify fun _ => rfl

theorem unassisted_reportEnd (site : CloseSite) :
    Keeps (unassisted cfg t) (UnassistedInv t) (reportEnd site) :=
  keeps_reportEnd (unassisted_modify fun _ => rfl) (unassisted_setState _)

theorem unassisted_onSocketError (site : CloseSite) :
    Keeps (unassisted cfg t) (UnassistedInv t) (onSocketError site) :=
  keeps_onSocketError (unassisted_reportEnd site) (unassisted_call rfl)

/-- Without a handler, an accepted handshake starts no keep-alive loop. -/
theorem unassisted_handshakeDone :
    Keeps (unassisted cfg t) (UnassistedInv t) handshakeDone := by
  apply Keeps.get_bind
  intro s P h hI
  rw [hI.holds.handler]
  exact hI

theorem unassisted_judge {app : Nat} {msg : HandshakeResponseMessage} :
    Keeps (unassisted cfg t) (UnassistedInv t) (judge app msg) := by
  apply keeps_judge
  · exact Keeps.bind (unassisted_modify fun _ => rfl) fun _ =>
      Keeps.bind (unassisted_setState _) fun _ => Keeps.bind .get fun _ =>
        Keeps.bind (unassisted_modify fun _ => rfl) fun _ => unassisted_handshakeDone
  · exact keeps_rejectHandshake (unassisted_modify fun _ => rfl) (unassisted_onSocketError _)
      (unassisted_stop (by decide)) (unassisted_setState _)

/-- The `except` clause of `send` without `handle_reconnect`. -/
def reportedLoss (e : Exc) : Hub Unit := do
  setHandshakeReceived false
  setState .disconnected
  reportLost e

/-- Without a handler, the `except` clause does not go on to `handle_reconnect`. -/
theorem connectionLost_run (hhandler : s.reconnectionHandler = none) :
    (connectionLost cfg e).run s = (reportedLoss e).run s := by
  have hhandler' : s.reconnectionHandler.isNone = true := by rw [hhandler]; rfl
  show (if s.reconnectionHandler.isNone then reportLost e else handleReconnect cfg).run _ = _
  rw [if_pos hhandler']
  rfl

/-- The same in any company. -/
theorem connectionLost_wp {R : HubRely} {Q : Post State Exc Op Op.Result Activity Unit}
    {h : List (Logged State Exc Op Op.Result)} (hhandler : s.reconnectionHandler = none) :
    (connectionLost cfg e).wp R Q s P h ↔ (reportedLoss e).wp R Q s P h := by
  have hhandler' : s.reconnectionHandler.isNone = true := by rw [hhandler]; rfl
  show (if s.reconnectionHandler.isNone then reportLost e else handleReconnect cfg).wp R Q _ P h ↔ _
  rw [if_pos hhandler']
  rfl

theorem unassisted_send {message : Outgoing} (hmessage : message.isPing = false) :
    Keeps (unassisted cfg t) (UnassistedInv t) (send cfg message) := by
  have hwrite : ∀ app, Keeps (unassisted cfg t) (UnassistedInv t) (write app message) := by
    intro app
    apply keeps_write
    · apply Keeps.modify
      intro s P h
      have hhanded : Unassisted { s with history := { s.history with
          handed := s.history.handed ++ [⟨app, message, s.history.accepted.contains app⟩] } } P :=
        { h.holds with
          handed := by
            intro handed hmem
            rcases List.mem_append.mp hmem with hmem | hmem
            · exact h.holds.handed handed hmem
            · rw [List.mem_singleton.mp hmem]
              exact hmessage }
      exact ⟨hhanded, h.current, h.foreground⟩
    · exact unassisted_perform rfl
    · exact fun b => unassisted_setApp fun _ => rfl
  apply keeps_send
  · exact keeps_transmit hwrite (unassisted_modify fun _ => rfl) unassisted_setHandler
  · intro e s P h hI
    rw [connectionLost_wp hI.holds.handler]
    have hlost : Keeps (unassisted cfg t) (UnassistedInv t) (reportedLoss e) :=
      Keeps.bind (unassisted_modify fun _ => rfl) fun _ =>
        Keeps.bind (unassisted_setState _) fun _ => keeps_reportLost (unassisted_call rfl)
    exact hlost s P h hI

theorem unassisted_receive {app : Nat} {raw : Raw} :
    Keeps (unassisted cfg t) (UnassistedInv t) (receive cfg app raw) := by
  have hinterpret : ∀ received, Keeps (unassisted cfg t) (UnassistedInv t)
      (interpret cfg app raw received) := by
    intro received
    apply Keeps.ite
    · intro _
      apply Keeps.bind (keeps_evaluateHandshake fun msg => unassisted_judge)
      intro messages
      apply Keeps.bind
      · exact keeps_reportOpen (unassisted_setState _) (unassisted_modify fun _ => rfl)
          (unassisted_call rfl)
      · exact fun _ => .pure _
    · exact fun _ => .ofExcept _
  exact Keeps.bind .get fun s => Keeps.bind (unassisted_modify fun _ => rfl) fun _ => hinterpret _

/-- A `start()` of the user. -/
theorem unassisted_start :
    Keeps (unassisted cfg .start) (UnassistedInv .start) (Connection.start cfg) := by
  have hcreate : Keeps (unassisted cfg .start) (UnassistedInv .start) createApp := by
    apply Keeps.get_bind
    intro s P h hI
    have happs : ∀ app ∈ s.apps ++ [newApp s.url s.oldHeaders.length (!s.history.current.isStart)],
        app.restarted = false ∧ app.killed = false := by
      intro app happ
      rcases List.mem_append.mp happ with happ | happ
      · exact hI.holds.apps app happ
      · rw [List.mem_singleton.mp happ, hI.current]
        exact ⟨rfl, rfl⟩
    have hinterventions : ∀ i ∈ intervene s, i.greenlet = .start := by
      intro i hi
      rcases List.mem_append.mp hi with hi | hi
      · exact hI.holds.interventions i hi
      · rw [List.mem_singleton.mp hi]
        exact hI.current
    have hrest : Keeps (unassisted cfg .start) (UnassistedInv .start)
        (fork (.runForever s.apps.length) >>= fun _ =>
          modify fun s' => { s' with greenlet := some s.apps.length } : Hub Unit) :=
      Keeps.bind unassisted_fork fun _ => unassisted_modify fun _ => rfl
    exact hrest _ P h ⟨{ hI.holds with interventions := hinterventions, apps := happs },
      hI.current, hI.foreground⟩
  apply Connection.keeps_start
  · exact Connection.keeps_refreshTokenMaybe (unassisted_perform rfl)
      fun token => unassisted_modify fun _ => rfl
  · exact keeps_start (keeps_negotiate (fun _ _ => unassisted_perform rfl)
      fun _ _ => unassisted_modify fun _ => rfl) (unassisted_setState _) hcreate

end WebsocketTransport

/-! ## Runs -/

theorem unassisted_runForever (app : Nat) :
    Keeps (unassisted cfg t) (UnassistedInv t) (WebSocketApp.runForever cfg app) := by
  have hset : ∀ f, (∀ a, ((f a).restarted, (f a).killed) = (a.restarted, a.killed)) →
      Keeps (unassisted cfg t) (UnassistedInv t) (setApp app f) :=
    fun f hf => unassisted_setApp hf
  have hcallback : ∀ {isOver p}, Keeps (unassisted cfg t) (UnassistedInv t) p →
      Keeps (unassisted cfg t) (UnassistedInv t) (WebSocketApp.callback app isOver p) :=
    fun hp => WebSocketApp.keeps_callback hp (WebsocketTransport.unassisted_onSocketError _)
  have hdispatch : Connection.KeepsDispatch (unassisted cfg t) (UnassistedInv t) :=
    { calls := ⟨fun _ => unassisted_modify fun _ => rfl, fun _ _ => unassisted_perform rfl⟩
      dispatched := fun _ => unassisted_modify fun _ => rfl
      unregister := fun _ => unassisted_modify fun _ => rfl
      event := fun _ _ => unassisted_perform rfl
      error := fun _ => unassisted_perform rfl }
  have hevent : Keeps (unassisted cfg t) (UnassistedInv t) (perform (Op.event app)) :=
    unassisted_perform rfl
  have hready : ∀ s P r, Unassisted s (.blocked t (.event app) ::ₘ P) →
      (unassisted cfg t).resume s P (.event app) r → UnassistedInv t s P := by
    intro s P r h hres
    -- to wait for an event is no assistance, so the thread goes on as it was
    have hme : isAssistance (.blocked t (.event app)) = false :=
      h.positions _ (Multiset.mem_cons_self _ _)
    exact ⟨h.tail, hres.1, by simpa [isAssistance, isReconnectStep] using hme⟩
  have hround : WebSocketApp.KeepsRound (unassisted cfg t) (UnassistedInv t) cfg app :=
    { block := fun s P h => h.holds.cons (by simp [isAssistance, isReconnectStep, h.foreground])
      resume := hready
      opened := fun s P h hinv hres => WebSocketApp.keeps_handleOpened (hset _ fun _ => rfl)
        (hcallback (WebsocketTransport.unassisted_send rfl)) s P h (hready s P _ hinv hres)
      message := fun raw s P h hinv hres => WebSocketApp.keeps_handleMessage
        (hcallback (WebsocketTransport.keeps_onMessage WebsocketTransport.unassisted_receive
          fun _ => Connection.keeps_onMessage (fun _ => Connection.keeps_dispatch hdispatch)
            (WebsocketTransport.unassisted_stop (by decide)))) s P h (hready s P _ hinv hres)
      silent := hset _ fun _ => rfl
      error := hcallback (WebsocketTransport.unassisted_onSocketError _) }
  exact WebSocketApp.keeps_runForever (hset _ fun _ => rfl) (hset _ fun _ => rfl)
    (WebSocketApp.keeps_round hround)
    (WebSocketApp.keeps_teardown (hset _ fun _ => rfl)
      (hcallback (WebsocketTransport.keeps_onClosed (WebsocketTransport.unassisted_reportEnd _)
        (unassisted_perform rfl))) (hset _ fun _ => rfl))

theorem unassisted_methods : KeepsMethods (unassisted cfg t) (UnassistedInv t) cfg where
  send := fun _ hmessage => WebsocketTransport.unassisted_send hmessage
  auth := unassisted_perform rfl
  sleep := fun _ => unassisted_perform rfl
  acquire := fun _ => unassisted_perform rfl
  register := fun _ => Connection.keeps_register (unassisted_modify fun _ => rfl)
    (unassisted_modify fun _ => rfl)
  modify := by
    intro f hf hhandler
    apply unassisted_modify
    intro s
    have hview := congrArg Unassisted.view (hf s)
    simp only [Unassisted.view, offActivities, Prod.mk.injEq] at hview
    simp only [Unassisted.view, hhandler, Prod.mk.injEq]
    exact ⟨trivial, hview.2⟩

/-- A thread that does not ping leaves the connection unassisted. -/
theorem unassisted_body (t : Activity) (h : UnassistedInv t s P) :
    (Hub.body cfg t).wp (unassisted cfg t) (fun _ s P _ => UnassistedInv t s P) s P [] := by
  by_cases hstart : t = .start
  · subst hstart
    have hstarted : Keeps (unassisted cfg .start) (UnassistedInv .start)
        (record fun h => { h with stopped := false }) := unassisted_modify fun _ => rfl
    exact keeps_once (Keeps.bind hstarted fun _ => WebsocketTransport.unassisted_start) s P [] h
  by_cases hstop : t = .stop
  · subst hstop
    have hstopped : Keeps (unassisted cfg .stop) (UnassistedInv .stop)
        (record fun h => { h with stopped := true }) := unassisted_modify fun _ => rfl
    exact keeps_once (Keeps.finally_ (WebsocketTransport.unassisted_stop (by decide)) hstopped)
      s P [] h
  · have hmethods : KeepsMethods (unassisted cfg t) (UnassistedInv t) cfg := unassisted_methods
    refine hmethods.body hstart hstop (fun app _ => unassisted_runForever app) ?_ ?_ s P [] h
    · intro ht
      subst ht
      exact absurd h.foreground (by decide)
    · intro sleepTime ht
      subst ht
      exact absurd h.foreground (by simp [isPinging])

theorem unassisted_proof (hcfg : cfg.reconnection = none) :
    Proof (hub cfg) .any Unassisted fun _ _ _ _ => True := by
  have henter : KeepsEntering .any Unassisted :=
    { inv := fun _ _ _ h => ⟨h.handler, h.running, h.handed, h.reconnects, h.restarts,
        h.interventions, h.apps, h.positions⟩
      start := fun _ _ _ _ h => h
      resume := fun _ _ _ _ _ _ h => h }
  apply Hub.proof_running henter
  · constructor
    · simp [State.new, hcfg]
    all_goals simp [State.new, History.new]
  · intro s P t h harrives _
    apply h.cons
    -- what the outside world starts is a call of a public method
    rcases harrives with hpublic | ⟨op, hpublic⟩
    · cases t <;> first | rfl | cases hpublic
    · cases t <;> first | rfl | simp [hub, Hub.isPublic] at hpublic
  · intro s P t h _ hcurrent
    have hready : isAssistance (.ready t) = false := h.positions _ (Multiset.mem_cons_self _ _)
    apply ends_of_ready (fun _ _ h => h.tail)
    exact wp_mono (fun _ _ _ _ (hI : UnassistedInv t _ _) => hI.holds.cons hready)
      (unassisted_body t ⟨h.tail, hcurrent, hready⟩)

/-- Without automatic reconnect: no keep-alive loop runs and no ping is sent, nothing enters
`deferred_reconnect` or, from the `except` clause of `send`, `handle_reconnect`, and every
websocket was created by a `start()` of the user. -/
theorem unassisted_reach {w : World State Exc Op Op.Result Activity}
    (h : (hub cfg).Reach .any w) (hcfg : cfg.reconnection = none) :
    Unassisted w.shared w.labels ∧
      ∀ s e, s.reconnectionHandler = w.shared.reconnectionHandler →
        (WebsocketTransport.connectionLost cfg e).run s =
          (WebsocketTransport.reportedLoss e).run s := by
  have hw : Unassisted w.shared w.labels := ((unassisted_proof hcfg).sound h).holds
  constructor
  · exact hw
  · intro s e hs
    exact WebsocketTransport.connectionLost_run (hs.trans hw.handler)

/-- A run in which a websocket opens, its handshake request is refused, and the user starts
the connection again. -/
theorem unassisted_refused :
    ∃ w, (hub (.direct none)).Reach .any w ∧ w.shared.apps.map (·.lost) = [true, false] ∧
      Unassisted w.shared w.labels := by
  have h := (hub (.direct none)).reach_after [.fork .start, .start 0, .start 1,
    .answer 1 (.happened .opened), .answer 1 (.raised .connectionClosed), .fork .start,
    .start 2] .start rfl
  exact ⟨_, h, rfl, (unassisted_reach h rfl).1⟩

end GeventSignalR
