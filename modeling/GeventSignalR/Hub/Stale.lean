import GeventSignalR.Coop.Onwards
import GeventSignalR.Hub.Keeps
import GeventSignalR.Hub.Waiting

/-!
# A connection with a stale handshake

`handshake_received` survives the end of a websocket.  While it is set and the connection is not
connected, nothing but a lost write forgets it.

* `Stale` is such a state, where no thread is about to settle it.
* `Unbroken` is the condition that no write loses its connection.
* `stale_onwards`: under this condition the connection stays deaf for good, however often `start`
  and `stop` are called: every frame of every new websocket is taken for messages, so that no
  handshake is accepted, `on_open` is not called and the state never becomes connected.
-/

namespace GeventSignalR

open Coop Coop.Prog

/-! ## The condition and the invariant -/

/-- No write loses its connection. -/
def Unbroken : Cond State Exc Op Op.Result Activity where
  fork := fun _ _ _ => True
  start := fun _ _ _ => True
  resume := fun _ _ _ op r => Hub.isLost op r = false

/-- The positions behind which a thread forgets the handshake, or calls `on_open`. -/
def isSettling : Label Op Activity → Bool
  | .blocked _ (.wsClose ..) => true
  | .blocked _ (.kill _) => true
  | .blocked _ (.callback .onReconnect) => true
  | .blocked _ (.callback (.onClose .rejected)) => true
  | _ => false

/-- The handshake of an earlier websocket counts for the next one, after some calls of `on_open`
and with some handshakes accepted. -/
structure Deaf (opens : Nat) (accepted : List Nat) (s : State) : Prop where
  handshake : s.handshakeReceived = true
  state : s.state ≠ .connected
  opens : s.history.opens = opens
  accepted : s.history.accepted = accepted

/-- Such a state, in which no thread settles anything. -/
def Stale (opens : Nat) (accepted : List Nat) : HubInv :=
  Pointwise (Deaf opens accepted) fun _ l => isSettling l = false

/-- A position that no thread reaches: only websockets wait for events. -/
def nowhere : Label Op Activity :=
  .blocked .checkerRun (.event 0)

variable {cfg : Config} {t : Activity} {opens : Nat} {accepted : List Nat}

/-- The connection is deaf from some time on. -/
abbrev Deafened (opens : Nat) (accepted : List Nat) : HubInv :=
  Marked nowhere (Stale opens accepted)

/-- It is not deaf yet. -/
abbrev Hearing : HubInv :=
  Unmarked nowhere

/-- What the proof assumes. -/
abbrev unbroken (cfg : Config) (opens : Nat) (accepted : List Nat) (t : Activity) : HubRely :=
  (hub cfg).rely (Unbroken.marked nowhere) (Deafened opens accepted) t

/-! ## Leaves -/

/-- What the invariant reads of the state. -/
def outlook (s : State) : Bool × ConnectionState × Nat × List Nat :=
  (s.handshakeReceived, s.state, s.history.opens, s.history.accepted)

/-- The invariant in a state that agrees on it. -/
theorem stale_congr {s s' : State} {P : Multiset (Label Op Activity)}
    (hstale : Stale opens accepted s P) (hs : outlook s' = outlook s) :
    Stale opens accepted s' P := by
  simp only [outlook, Prod.mk.injEq] at hs
  obtain ⟨hhandshake, hstate, hopens, haccepted⟩ := hs
  refine ⟨⟨hhandshake.trans hstale.base.handshake, ?_, hopens.trans hstale.base.opens,
    haccepted.trans hstale.base.accepted⟩, hstale.at_⟩
  rw [hstate]
  exact hstale.base.state

theorem deafened_of_hearing (s : State) (P : Multiset (Label Op Activity)) (h : Hearing s P) :
    Deafened opens accepted s P :=
  marked_of_unmarked h

/-- A deaf connection is not connected. -/
theorem hearing_of_connected {s : State} {P : Multiset (Label Op Activity)}
    (h : Deafened opens accepted s P) (hstate : s.state = .connected) : Hearing s P :=
  fun hmem => (h hmem).base.state hstate

/-- It does not wait for a handshake. -/
theorem hearing_of_waiting {s : State} {P : Multiset (Label Op Activity)}
    (h : Deafened opens accepted s P) (hhandshake : s.handshakeReceived = false) : Hearing s P := by
  intro hmem
  have htrue := (h hmem).base.handshake
  rw [hhandshake] at htrue
  cases htrue

theorem deafened_modify {f : State → State} (hf : ∀ s, outlook (f s) = outlook s) :
    Keeps (unbroken cfg opens accepted t) (Deafened opens accepted) (modify f : Hub Unit) :=
  marked_modify fun s _ h => stale_congr h (hf s)

theorem hearing_modify {f : State → State} :
    Keeps (unbroken cfg opens accepted t) Hearing (modify f : Hub Unit) :=
  unmarked_modify

theorem deafened_ready {s : State} {P : Multiset (Label Op Activity)} (t : Activity)
    (h : Deafened opens accepted s P) : Deafened opens accepted s (.ready t ::ₘ P) := by
  intro hmem
  have hmem' := (Multiset.mem_cons.mp hmem).resolve_left (by simp [nowhere])
  exact (h hmem').cons rfl

theorem deafened_tail {s : State} {P : Multiset (Label Op Activity)} {l : Label Op Activity}
    (h : Deafened opens accepted s (l ::ₘ P)) : Deafened opens accepted s P :=
  fun hmem => (h (Multiset.mem_cons_of_mem hmem)).tail

theorem deafened_fork (t' : Activity) :
    Keeps (unbroken cfg opens accepted t) (Deafened opens accepted) (fork t' : Hub Unit) :=
  Keeps.fork fun _ _ h => deafened_ready t' h

/-- An operation behind which the thread settles nothing. -/
theorem deafened_block {op : Op} {s : State} {P : Multiset (Label Op Activity)}
    (hop : isSettling (.blocked t op) = false) (hplace : nowhere ≠ .blocked t op)
    (h : Deafened opens accepted s P) : Deafened opens accepted s (.blocked t op ::ₘ P) := by
  intro hmem
  exact (h ((Multiset.mem_cons.mp hmem).resolve_left hplace)).cons hop

theorem deafened_perform {op : Op} (hop : isSettling (.blocked t op) = false)
    (hplace : nowhere ≠ .blocked t op) :
    Keeps (unbroken cfg opens accepted t) (Deafened opens accepted) (perform op) :=
  Keeps.perform (fun _ _ h => deafened_block hop hplace h) fun _ _ _ h _ => deafened_tail h

/-- An operation behind which it does.  Nobody stands there in a deaf connection. -/
theorem hearing_perform {op : Op} (hop : isSettling (.blocked t op) = true)
    (hplace : nowhere ≠ .blocked t op) :
    Keeps (unbroken cfg opens accepted t) Hearing (perform op) := by
  refine Keeps.perform ?_ ?_
  · intro s P h
    exact marked_of_unmarked fun hmem => (Multiset.mem_cons.mp hmem).elim hplace h
  · intro s P r h _ hmem
    have hsettles := (h (Multiset.mem_cons_of_mem hmem)).head
    rw [hop] at hsettles
    cases hsettles

theorem deafened_setState {value : ConnectionState} (hvalue : value ≠ .connected) :
    Keeps (unbroken cfg opens accepted t) (Deafened opens accepted)
      (WebsocketTransport.setState value) := by
  refine Keeps.bind (marked_modify fun s P h => ?_) fun _ => Keeps.when fun hconnected =>
    absurd (of_decide_eq_true hconnected) hvalue
  exact ⟨⟨h.base.handshake, hvalue, h.base.opens, h.base.accepted⟩, h.at_⟩

theorem hearing_setState (value : ConnectionState) :
    Keeps (unbroken cfg opens accepted t) Hearing (WebsocketTransport.setState value) :=
  Keeps.bind hearing_modify fun _ => Keeps.when fun _ => hearing_modify

theorem deafened_call {callback : Callback}
    (hcallback : isSettling (.blocked t (.callback callback)) = false) :
    Keeps (unbroken cfg opens accepted t) (Deafened opens accepted) (call callback) :=
  deafened_perform hcallback (by simp [nowhere])

/-! ## Stopping and starting -/

theorem hearing_stop (site : StopSite) :
    Keeps (unbroken cfg opens accepted t) Hearing (WebsocketTransport.stop site) :=
  WebsocketTransport.keeps_stop hearing_modify
    (WebsocketTransport.keeps_closeWs (fun _ => hearing_modify)
      (fun _ => hearing_perform rfl (by simp [nowhere])) fun _ => hearing_modify)
    (hearing_setState _) hearing_modify

/-- `stop` does nothing to a deaf connection. -/
theorem deafened_stop (site : StopSite) :
    Keeps (unbroken cfg opens accepted t) (Deafened opens accepted)
      (WebsocketTransport.stop site) := by
  intro s P h hdeafened
  by_cases hstate : s.state = .connected
  · exact Leads.of_keeps deafened_of_hearing (hearing_stop site) s P h
      (hearing_of_connected hdeafened hstate)
  · exact WebsocketTransport.wp_stop_of_ne hstate hdeafened

/-- `start` creates a websocket and leaves the handshake as it is. -/
theorem deafened_start :
    Keeps (unbroken cfg opens accepted t) (Deafened opens accepted) (Connection.start cfg) :=
  Connection.keeps_start
    (Connection.keeps_refreshTokenMaybe (deafened_perform rfl (by simp [nowhere]))
      fun _ => deafened_modify fun _ => rfl)
    (WebsocketTransport.keeps_start
      (WebsocketTransport.keeps_negotiate (fun _ _ => deafened_perform rfl (by simp [nowhere]))
        fun _ _ => deafened_modify fun _ => rfl)
      (deafened_setState (by decide))
      (Keeps.bind .get fun _ => Keeps.bind (deafened_modify fun _ => rfl) fun _ =>
        Keeps.bind (deafened_modify fun _ => rfl) fun _ => Keeps.bind (deafened_fork _) fun _ =>
          deafened_modify fun _ => rfl))

/-! ## Sending -/

/-- A reconnect forgets the handshake before it starts anew. -/
theorem hearing_reconnect :
    Leads (unbroken cfg opens accepted t) Hearing (Deafened opens accepted)
      (WebsocketTransport.reconnect cfg) := by
  have hstop : Keeps (unbroken cfg opens accepted t) Hearing WebsocketTransport.stopLost :=
    WebsocketTransport.keeps_stopLost (hearing_stop _) (hearing_setState _)
  have hkill : Keeps (unbroken cfg opens accepted t) Hearing WebsocketTransport.killGreenlet :=
    WebsocketTransport.keeps_killGreenlet
      (fun _ => WebsocketTransport.keeps_killApp (fun _ => hearing_modify) hearing_modify)
      fun _ => hearing_perform rfl (by simp [nowhere])
  exact Leads.bind deafened_of_hearing hstop fun _ =>
    Leads.bind deafened_of_hearing hkill fun _ =>
      Leads.bind deafened_of_hearing hearing_modify fun _ =>
        Leads.bind deafened_of_hearing hearing_modify fun _ =>
          Leads.to_keeps deafened_of_hearing deafened_start

theorem deafened_setHandler (f : ReconnectionHandler → ReconnectionHandler) :
    Keeps (unbroken cfg opens accepted t) (Deafened opens accepted)
      (WebsocketTransport.setHandler f) :=
  deafened_modify fun _ => rfl

theorem hearing_handleReconnect :
    Leads (unbroken cfg opens accepted t) Hearing (Deafened opens accepted)
      (WebsocketTransport.handleReconnect cfg) := by
  have hreport : Keeps (unbroken cfg opens accepted t) Hearing WebsocketTransport.reportReconnect :=
    WebsocketTransport.keeps_reportReconnect hearing_modify
      (hearing_perform rfl (by simp [nowhere]))
  have hdefer : ∀ e, Keeps (unbroken cfg opens accepted t) (Deafened opens accepted)
      (WebsocketTransport.deferReconnect e) := fun _ =>
    WebsocketTransport.keeps_deferReconnect
      (WebsocketTransport.keeps_nextSleepTime deafened_setHandler
        fun _ => deafened_modify fun _ => rfl)
      fun _ => deafened_fork _
  exact Leads.bind deafened_of_hearing WebsocketTransport.keeps_reconnectionHandler fun _ =>
    Leads.bind deafened_of_hearing .get fun _ =>
      Leads.bind deafened_of_hearing (Keeps.when fun _ => hreport) fun _ =>
        Leads.bind deafened_of_hearing
          (WebsocketTransport.keeps_setReconnecting fun _ => hearing_modify) fun _ =>
            Leads.tryCatch hearing_reconnect hdefer

theorem hearing_connectionLost (e : Exc) :
    Leads (unbroken cfg opens accepted t) Hearing (Deafened opens accepted)
      (WebsocketTransport.connectionLost cfg e) :=
  Leads.bind deafened_of_hearing hearing_modify fun _ =>
    Leads.bind deafened_of_hearing (hearing_setState _) fun _ =>
      Leads.bind deafened_of_hearing .get fun _ => Leads.ite
        (fun _ => Leads.to_keeps deafened_of_hearing
          (WebsocketTransport.keeps_reportLost (deafened_call rfl)))
        fun _ => hearing_handleReconnect

/-- The condition excludes that a deaf connection loses a write. -/
theorem deafened_send (message : Outgoing) :
    Keeps (unbroken cfg opens accepted t) (Deafened opens accepted)
      (WebsocketTransport.send cfg message) := by
  refine WebsocketTransport.keeps_send_of_lost (J := Hearing)
    (fun _ => deafened_modify fun _ => rfl)
    (fun _ => deafened_perform rfl (by simp [nowhere])) (fun _ _ => deafened_modify fun _ => rfl)
    ?_ (deafened_modify fun _ => rfl) (fun _ => deafened_modify fun _ => rfl)
    hearing_connectionLost
  intro app s P e _ hresume he hmem
  have hkept : e.isConnectionLost = false := hresume.1 hmem
  rw [he] at hkept
  cases hkept

/-! ## Events -/

theorem deafened_reportEnd (site : CloseSite) :
    Keeps (unbroken cfg opens accepted t) (Deafened opens accepted)
      (WebsocketTransport.reportEnd site) := by
  refine WebsocketTransport.keeps_reportEnd (marked_modify fun s P h => ?_)
    (deafened_setState (by decide))
  exact ⟨⟨h.base.handshake, by simp, h.base.opens, h.base.accepted⟩, h.at_⟩

theorem deafened_onSocketError {site : CloseSite}
    (hsite : isSettling (.blocked t (.callback (.onClose site))) = false) :
    Keeps (unbroken cfg opens accepted t) (Deafened opens accepted)
      (WebsocketTransport.onSocketError site) :=
  WebsocketTransport.keeps_onSocketError (deafened_reportEnd _) (deafened_call hsite)

/-- Only a connection that is not deaf judges a handshake response. -/
theorem hearing_judge (app : Nat) (response : HandshakeResponseMessage) :
    Keeps (unbroken cfg opens accepted t) Hearing (WebsocketTransport.judge app response) := by
  have hchecker : Keeps (unbroken cfg opens accepted t) Hearing ConnectionStateChecker.start :=
    Keeps.bind hearing_modify fun _ => unmarked_fork (by simp [nowhere])
  have haccept : Keeps (unbroken cfg opens accepted t) Hearing
      (WebsocketTransport.acceptHandshake app) :=
    Keeps.bind hearing_modify fun _ => Keeps.bind (hearing_setState _) fun _ =>
      Keeps.bind .get fun _ => Keeps.bind hearing_modify fun _ =>
        WebsocketTransport.keeps_handshakeDone (fun _ => hearing_modify) hchecker
  have hreject : Keeps (unbroken cfg opens accepted t) Hearing
      WebsocketTransport.rejectHandshake :=
    WebsocketTransport.keeps_rejectHandshake hearing_modify
      (WebsocketTransport.keeps_onSocketError
        (WebsocketTransport.keeps_reportEnd hearing_modify (hearing_setState _))
        (hearing_perform rfl (by simp [nowhere])))
      (hearing_stop _) (hearing_setState _)
  exact WebsocketTransport.keeps_judge haccept hreject

theorem hearing_reportOpen :
    Leads (unbroken cfg opens accepted t) Hearing (Deafened opens accepted)
      WebsocketTransport.reportOpen :=
  Leads.bind deafened_of_hearing .get fun _ => Leads.when deafened_of_hearing fun _ =>
    Leads.bind deafened_of_hearing (hearing_setState _) fun _ =>
      Leads.bind deafened_of_hearing hearing_modify fun _ =>
        Leads.to_keeps deafened_of_hearing (deafened_call rfl)

/-- A deaf connection takes every frame for messages. -/
theorem deafened_receive (app : Nat) (raw : Raw) :
    Keeps (unbroken cfg opens accepted t) (Deafened opens accepted)
      (WebsocketTransport.receive cfg app raw) := by
  intro s P h hdeafened
  have hreceived : Deafened opens accepted { s with history := { s.history with
      received := s.history.received ++ [(app, s.handshakeReceived, s.state)] } } P :=
    fun hmem => stale_congr (hdeafened hmem) rfl
  refine WebsocketTransport.wp_receive_due rfl hreceived ?_ hearing_reportOpen
  intro hwaiting response _
  refine wp_mono ?_ (hearing_judge app response.1 _ P h (hearing_of_waiting hreceived hwaiting))
  rintro (e | _) s P h hhearing
  · exact deafened_of_hearing s P hhearing
  · exact hhearing

theorem deafened_dispatch :
    Connection.KeepsDispatch (unbroken cfg opens accepted t) (Deafened opens accepted) where
  calls := ⟨fun _ => deafened_modify fun _ => rfl, fun _ _ => deafened_call rfl⟩
  dispatched := fun _ => deafened_modify fun _ => rfl
  unregister := fun _ => deafened_modify fun _ => rfl
  event := fun _ _ => deafened_call rfl
  error := fun _ => deafened_call rfl

theorem deafened_round (app : Nat) :
    WebSocketApp.KeepsRound (unbroken cfg opens accepted (.runForever app))
      (Deafened opens accepted) cfg app where
  block := fun _ _ h => deafened_block rfl (by simp [nowhere]) h
  resume := fun _ _ _ h _ => deafened_tail h
  opened := fun s P h hinv _ =>
    WebSocketApp.keeps_handleOpened (deafened_modify fun _ => rfl)
      (WebSocketApp.keeps_callback (deafened_send _) (deafened_onSocketError rfl))
      s P h (deafened_tail hinv)
  message := fun raw s P h hinv _ =>
    WebSocketApp.keeps_handleMessage (WebSocketApp.keeps_callback
      (WebsocketTransport.keeps_onMessage (deafened_receive app raw) fun _ =>
        Connection.keeps_onMessage (fun _ => Connection.keeps_dispatch deafened_dispatch)
          (deafened_stop _))
      (deafened_onSocketError rfl)) s P h (deafened_tail hinv)
  silent := deafened_modify fun _ => rfl
  error := WebSocketApp.keeps_callback (deafened_onSocketError rfl) (deafened_onSocketError rfl)

theorem deafened_runForever (app : Nat) :
    Keeps (unbroken cfg opens accepted (.runForever app)) (Deafened opens accepted)
      (WebSocketApp.runForever cfg app) := by
  have hended : Keeps (unbroken cfg opens accepted (.runForever app)) (Deafened opens accepted)
      (setApp app fun a => { a with ended := true }) :=
    deafened_modify fun _ => rfl
  have hclosed : Keeps (unbroken cfg opens accepted (.runForever app)) (Deafened opens accepted)
      (WebsocketTransport.onClosed app) :=
    WebsocketTransport.keeps_onClosed (deafened_reportEnd _) (deafened_call rfl)
  exact WebSocketApp.keeps_runForever (deafened_modify fun _ => rfl) hended
    (WebSocketApp.keeps_round (deafened_round app))
    (WebSocketApp.keeps_teardown (deafened_modify fun _ => rfl)
      (WebSocketApp.keeps_callback hclosed (deafened_onSocketError rfl)) hended)

theorem deafened_activities :
    KeepsActivities (unbroken cfg opens accepted t) (Deafened opens accepted) cfg where
  send := deafened_send
  auth := deafened_perform rfl (by simp [nowhere])
  sleep := fun _ => deafened_perform rfl (by simp [nowhere])
  acquire := fun _ => deafened_perform rfl (by simp [nowhere])
  register := fun _ => Connection.keeps_register (deafened_modify fun _ => rfl)
    (deafened_modify fun _ => rfl)
  modify := fun hf => deafened_modify fun s => (congrArg outlook (hf s) :)

theorem deafened_body :
    Keeps (unbroken cfg opens accepted t) (Deafened opens accepted) (Hub.body cfg t) := by
  by_cases hstart : t = .start
  · subst hstart
    exact keeps_once (Keeps.bind (deafened_modify fun _ => rfl) fun _ => deafened_start)
  · by_cases hstop : t = .stop
    · subst hstop
      exact keeps_once (Keeps.finally_ (deafened_stop _) (deafened_modify fun _ => rfl))
    · exact deafened_activities.body hstart hstop fun app happ => happ ▸ deafened_runForever app

/-! ## Runs -/

theorem deafened_proof : Proof (hub cfg) (Unbroken.marked nowhere) (Deafened opens accepted)
    fun _ _ _ _ => True := by
  refine Hub.proof ⟨fun _ _ _ h hmem => stale_congr (h hmem) rfl, fun _ _ _ _ h => h,
    fun _ _ _ _ _ _ h => h⟩ (deafened_of_hearing _ _ (Multiset.notMem_zero _))
    (fun _ _ t h _ _ => deafened_ready t h) ?_
  intro s P t hdeafened _
  exact ends_of_wp (fun _ _ => deafened_ready t)
    (deafened_body s P [] (deafened_tail hdeafened))

/-- Only a websocket waits for its events. -/
theorem nowhere_not_mem {w : World State Exc Op Op.Result Activity}
    (h : (hub cfg).Reach .any w) : nowhere ∉ w.labels := by
  intro hmem
  have hthread := ((attending_reach h).attends nowhere hmem).event 0 rfl
  cases hthread

/-- From a stale handshake on, and as long as no write loses its connection, the connection stays
deaf: whatever is called, started or stopped and whatever the servers send, it is never connected,
no handshake is accepted and `on_open` is not called. -/
theorem stale_onwards {w w' : World State Exc Op Op.Result Activity}
    (h : (hub cfg).Reach .any w) (hhandshake : w.shared.handshakeReceived = true)
    (hstate : w.shared.state ≠ .connected) (hsettled : ∀ l ∈ w.labels, isSettling l = false)
    (hon : (hub cfg).Onwards Unbroken w w') :
    w'.shared.handshakeReceived = true ∧ w'.shared.state ≠ .connected ∧
      w'.shared.history.opens = w.shared.history.opens ∧
        w'.shared.history.accepted = w.shared.history.accepted := by
  have hstale : Stale w.shared.history.opens w.shared.history.accepted w.shared w.labels :=
    ⟨⟨hhandshake, hstate, rfl, rfl⟩, hsettled⟩
  have hstays := deafened_proof.holds_onwards (fun _ => nowhere_not_mem)
    ⟨fun _ _ _ h => h, fun _ _ _ h => h, fun _ _ _ _ _ h => h⟩
    (fun _ _ => ⟨fun h => h.tail, fun h => h.cons rfl⟩) h hstale hon
  exact ⟨hstays.base.handshake, hstays.base.state, hstays.base.opens, hstays.base.accepted⟩

/-- A connection whose websocket has closed behind an accepted handshake.  `start` creates a new
one, whose handshake response is not recognised any more. -/
theorem stale_onwards_closed :
    ∃ w, (hub (.direct none)).Reach .any w ∧ w.shared.history.accepted = [0] ∧
      ∀ w', (hub (.direct none)).Onwards Unbroken w w' →
        w'.shared.handshakeReceived = true ∧ w'.shared.state ≠ .connected ∧
          w'.shared.history.opens = w.shared.history.opens ∧
            w'.shared.history.accepted = w.shared.history.accepted := by
  have h := (hub (.direct none)).reach_after [.fork .start, .start 0, .start 1,
    .answer 1 (.happened .opened), .answer 1 .done, .start 1,
    .answer 1 (.happened (.message (.text "\x7b\x7d\x1e"))), .start 1,
    .answer 1 (.happened .closed)] .start rfl
  have hclosed : ∃ w, (hub (.direct none)).Reach .any w ∧ w.shared.history.accepted = [0] ∧
      w.shared.handshakeReceived = true ∧ w.shared.state = .disconnected ∧ w.labels = 0 :=
    ⟨_, h, rfl, rfl, rfl, rfl⟩
  obtain ⟨w, hreach, haccepted, hhandshake, hstate, hlabels⟩ := hclosed
  refine ⟨w, hreach, haccepted, fun w' hon => ?_⟩
  refine stale_onwards hreach hhandshake (by simp [hstate]) ?_ hon
  simp [hlabels]

end GeventSignalR
