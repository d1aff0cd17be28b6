import GeventSignalR.Coop.Alone
import GeventSignalR.Hub.Keeps

/-!
# Rejected handshakes

Behind `evaluate_handshake`, `on_message` asks whether an `on_open` callback is
registered, and not whether the handshake was accepted.

* `StaysShut` says when a rejected response leaves the connection shut.
* `Unopened` are the steps that do not open it, `Balanced` the invariant that every
  call of `on_open` belongs to an accepted response.
-/

namespace GeventSignalR

open Coop Coop.Prog

/-- The `on_close` callback of a rejected handshake returns. -/
def isReported : (op : Op) → Except Exc op.Result → Bool
  | .callback (.onClose .rejected), .ok _ => true
  | _, _ => false

/-- No step opens a connection whose handshake was rejected: where such a response is
taken up, or its `on_close` callback returns, no `on_open` callback is registered. -/
def Unopened (cfg : Config) : Cond State Exc Op Op.Result Activity where
  fork := fun _ _ _ => True
  start := fun _ _ _ => True
  resume := fun s _ _ op r =>
    (∀ raw ∈ arrived op r, s.handshakeReceived = false → s.ws ≠ none → s.onClose = false →
      ∀ response ∈ (cfg.protocol.decodeHandshake raw).toOption,
        WebsocketTransport.isAccepted response.1 = false → s.onOpen = false) ∧
      (isReported op r = true → s.onOpen = false)

instance (cfg : Config) : System.Decides (Unopened cfg) where
  fork := fun _ _ _ => isTrue trivial
  start := fun _ _ _ => isTrue trivial
  resume := fun _ _ _ _ _ => inferInstanceAs (Decidable (_ ∧ _))

/-- Every call of `on_open` belongs to an accepted response. -/
def Balanced (s : State) : Prop :=
  s.history.opens = s.history.acceptedOpen

/-- The same, with a call that is due if `on_open` is registered. -/
def Due (s : State) : Prop :=
  s.history.opens + (if s.onOpen then 1 else 0) = s.history.acceptedOpen

variable {cfg : Config} {t : Activity}

/-- What the proof assumes. -/
abbrev unopened (cfg : Config) (t : Activity) : HubRely :=
  (hub cfg).rely (Unopened cfg) (fun s _ => Balanced s) t

/-- The invariant as a property of programs. -/
abbrev BalancedInv : HubInv := fun s _ => Balanced s

/-! ## Leaves -/

/-- What the invariant reads of the state. -/
def openings (s : State) : Nat × Nat :=
  (s.history.opens, s.history.acceptedOpen)

theorem balanced_congr {s s' : State} (h : Balanced s) (hs : openings s' = openings s) :
    Balanced s' := by
  simp only [openings, Prod.mk.injEq] at hs
  simpa only [Balanced, hs] using h

theorem balanced_modify {f : State → State} (hf : ∀ s, openings (f s) = openings s) :
    Keeps (unopened cfg t) BalancedInv (modify f : Hub Unit) :=
  Keeps.modify fun s _ h => balanced_congr h (hf s)

theorem balanced_perform {op : Op} : Keeps (unopened cfg t) BalancedInv (perform op) :=
  Keeps.perform (fun _ _ h => h) fun _ _ _ h _ => h

theorem balanced_offTransport : OffTransport (unopened cfg t) BalancedInv where
  congr := fun h hs => balanced_congr h (congrArg openings hs :)
  perform := fun _ => balanced_perform
  fork := fun _ => Keeps.fork fun _ _ h => h

/-! ## Handshakes -/

/-- An accepted response counts, if `on_open` is registered. -/
theorem due_accept {app : Nat} {s : State} {P : Multiset (Label Op Activity)}
    {h : List (Logged State Exc Op Op.Result)} (hbalanced : Balanced s) :
    (WebsocketTransport.acceptHandshake app).wp (unopened cfg t)
      (fun r s _ _ => r = .ok () ∧ Due s) s P h := by
  unfold WebsocketTransport.acceptHandshake WebsocketTransport.setHandshakeReceived
    WebsocketTransport.setState WebsocketTransport.handshakeDone WebsocketTransport.setHandler
    ConnectionStateChecker.start record
  simp only [wp_bind, wp_modify, wp_get, wp_when, wp_fork]
  split_ifs <;> exact ⟨trivial, by simp_all [Due, Balanced]⟩

/-- Behind the `on_close` callback no `on_open` is registered. -/
theorem balanced_rejected {s : State} {P : Multiset (Label Op Activity)}
    {h : List (Logged State Exc Op Op.Result)} (hbalanced : Balanced s)
    (hopen : s.onClose = false → s.onOpen = false) :
    (WebsocketTransport.onSocketError .rejected).wp (unopened cfg t)
      (fun r s _ _ =>
        match r with
        | .ok _ => Balanced s ∧ s.onOpen = false ∧ s.state = .disconnected
        | .error _ => Balanced s) s P h := by
  unfold WebsocketTransport.onSocketError call
  simp only [wp_bind, wp_get, wp_when]
  split_ifs with hclose
  · rw [wp_perform]
    refine ⟨hbalanced, ?_⟩
    rintro s' P' (e | _) hbalanced' hresume
    · exact hbalanced'
    · exact ⟨hbalanced', hresume.1.2 rfl, rfl⟩
  · exact ⟨hbalanced, hopen (by simpa using hclose), rfl⟩

/-- A rejected response does not count, and no `on_open` is registered. -/
theorem due_reject {s : State} {P : Multiset (Label Op Activity)}
    {h : List (Logged State Exc Op Op.Result)} (hbalanced : Balanced s)
    (hopen : s.ws ≠ none → s.onClose = false → s.onOpen = false) :
    WebsocketTransport.rejectHandshake.wp (unopened cfg t)
      (fun r s _ _ =>
        match r with
        | .ok _ => Due s
        | .error _ => Balanced s) s P h := by
  unfold WebsocketTransport.rejectHandshake WebsocketTransport.ws record
  simp only [wp_bind, wp_get, wp_modify]
  cases hws : s.ws with
  | none => exact hbalanced
  | some app =>
      simp only [Option.elim_some, wp_pure]
      refine wp_mono ?_ (balanced_rejected hbalanced (hopen (by simp [hws])))
      rintro (e | _) s P h hrejected
      · exact hrejected
      · obtain ⟨hbalanced, hopen, hstate⟩ := hrejected
        refine WebsocketTransport.wp_stop_of_ne (by simp [hstate]) ?_
        show s.history.opens + (if s.onOpen = true then 1 else 0) = s.history.acceptedOpen
        simpa [hopen, Balanced] using hbalanced

/-- The call that is due takes place. -/
theorem balanced_reportOpen :
    Leads (unopened cfg t) (fun s _ => Due s) BalancedInv WebsocketTransport.reportOpen := by
  intro s P h hdue
  unfold WebsocketTransport.reportOpen
  simp only [wp_bind, wp_get, wp_when]
  split_ifs with hopen
  · have hcounted : Balanced { s with
        state := .connected
        history := { s.history with
          revived := s.history.revived || s.history.stopped
          opens := s.history.opens + 1 } } := by
      simpa [Due, Balanced, hopen] using hdue
    exact balanced_perform _ P h hcounted
  · simpa [Due, Balanced, hopen] using hdue

/-- The response of a handshake. -/
theorem due_judge {app : Nat} {s : State} {P : Multiset (Label Op Activity)}
    {h : List (Logged State Exc Op Op.Result)} {response : HandshakeResponseMessage}
    (hbalanced : Balanced s)
    (hopen : WebsocketTransport.isAccepted response = false → s.ws ≠ none → s.onClose = false →
      s.onOpen = false) :
    (WebsocketTransport.judge app response).wp (unopened cfg t)
      (fun r s _ _ =>
        match r with
        | .ok _ => Due s
        | .error _ => Balanced s) s P h := by
  unfold WebsocketTransport.judge
  split_ifs with haccepted
  · refine wp_mono ?_ (due_accept hbalanced)
    rintro r s P h ⟨rfl, hdue⟩
    exact hdue
  · exact due_reject hbalanced (hopen (by simpa using haccepted))

/-- The messages of a frame. -/
theorem balanced_receive (app : Nat) (raw : Raw) :
    Leads (unopened cfg t)
      (fun s P => Balanced s ∧ (Unopened cfg).resume s P t (.event app) (.ok (.message raw)))
      BalancedInv (WebsocketTransport.receive cfg app raw) := by
  rintro s P h ⟨hbalanced, hevent⟩
  unfold WebsocketTransport.receive WebsocketTransport.interpret
    WebsocketTransport.evaluateHandshake record
  simp only [wp_bind, wp_get, wp_modify]
  split_ifs with hreceived
  · simp only [wp_bind, wp_ofExcept, wp_pure]
    cases hdecode : cfg.protocol.decodeHandshake raw with
    | error e => exact hbalanced
    | ok result =>
        have hopen := fun haccepted hws hclose => hevent.1 raw rfl (by simpa using hreceived)
          hws hclose result (by simp [hdecode, Except.toOption]) haccepted
        refine wp_mono ?_ (due_judge hbalanced hopen)
        rintro (e | _) s P h hdue
        · exact hdue
        · refine wp_mono ?_ (balanced_reportOpen s P h hdue)
          rintro (e | _) s P h hbalanced
          · exact hbalanced
          · exact hbalanced
  · rw [wp_ofExcept]
    exact hbalanced

/-! ## Runs -/

theorem balanced_dispatch : Connection.KeepsDispatch (unopened cfg t) BalancedInv where
  calls := ⟨fun _ => balanced_modify fun _ => rfl, fun _ _ => balanced_perform⟩
  dispatched := fun _ => balanced_modify fun _ => rfl
  unregister := fun _ => balanced_modify fun _ => rfl
  event := fun _ _ => balanced_perform
  error := fun _ => balanced_perform

theorem balanced_send (message : Outgoing) :
    Keeps (unopened cfg t) BalancedInv (WebsocketTransport.send cfg message) :=
  balanced_offTransport.send fun _ => balanced_perform

theorem balanced_runForever (app : Nat) :
    Keeps (unopened cfg t) BalancedInv (WebSocketApp.runForever cfg app) := by
  have hoff : OffTransport (unopened cfg t) BalancedInv := balanced_offTransport
  refine hoff.runForever (hoff.toOffSocket.round balanced_send (fun _ _ _ h _ => h)
    (fun _ _ h => h) ?_ (hoff.modify fun _ => rfl))
  intro raw s P h hbalanced hresume
  exact WebSocketApp.leads_handleMessage (balanced_receive app raw)
    (fun _ => Connection.keeps_onMessage (fun _ => Connection.keeps_dispatch balanced_dispatch)
      (hoff.toOffSocket.stop _))
    (hoff.toOffSocket.onSocketError _) s P h ⟨hbalanced, hresume.1⟩

theorem balanced_activities : KeepsActivities (unopened cfg t) BalancedInv cfg where
  send := balanced_send
  auth := balanced_perform
  sleep := fun _ => balanced_perform
  acquire := fun _ => balanced_perform
  register := fun _ =>
    Connection.keeps_register (balanced_modify fun _ => rfl) (balanced_modify fun _ => rfl)
  modify := fun hf => balanced_modify fun s => (congrArg openings (hf s) :)

theorem balanced_body (t : Activity) : Keeps (unopened cfg t) BalancedInv (Hub.body cfg t) := by
  have hrecord : ∀ stopped,
      Keeps (unopened cfg t) BalancedInv (record fun h => { h with stopped }) :=
    fun _ => balanced_modify fun _ => rfl
  by_cases hstart : t = .start
  · subst hstart
    exact keeps_once (Keeps.bind (hrecord _) fun _ => balanced_offTransport.start)
  · by_cases hstop : t = .stop
    · subst hstop
      exact keeps_once (Keeps.finally_ (balanced_offTransport.toOffSocket.stop _) (hrecord _))
    · exact balanced_activities.body hstart hstop fun app _ => balanced_runForever app

/-- The invariant holds along every run that does not open a rejected connection. -/
theorem balanced_proof :
    Proof (hub cfg) (Unopened cfg) BalancedInv fun _ _ _ _ => True :=
  Hub.proof ⟨fun _ _ _ h => h, fun _ _ _ _ h => h, fun _ _ _ _ _ _ h => h⟩ rfl
    (fun _ _ _ h _ _ => h) fun s P t h _ => ends_of_wp (fun _ _ h => h) (balanced_body t s P [] h)

/-! ## One response -/

/-- Evaluating a rejected response raises before it sets the state: there is no websocket,
or the `on_close` callback raises. -/
def RejectionRaises (answers : List Op → (op : Op) → Except Exc op.Result) (s : State) : Prop :=
  s.ws = none ∨ s.onClose = true ∧ (answers [] (.callback (.onClose .rejected))).isOk = false

/-- The state is `disconnected` already where evaluating the response raises, and no
`on_open` callback is registered elsewhere. -/
def StaysShut (answers : List Op → (op : Op) → Except Exc op.Result) (s : State) : Prop :=
  (RejectionRaises answers s → s.state = .disconnected) ∧
    (¬RejectionRaises answers s → s.onOpen = false)

/-- The connection is shut, and has not been opened. -/
structure Shut (s : State) (ops : List Op) : Prop where
  state : s.state = .disconnected
  handshakeReceived : s.handshakeReceived = false
  notOpened : Op.callback .onOpen ∉ ops

variable {answers : List Op → (op : Op) → Except Exc op.Result}

/-- `stop` on a transport that is not connected. -/
theorem alone_stop_of_ne {site : StopSite} {s : State} {ops : List Op} (hs : s.state ≠ .connected) :
    (WebsocketTransport.stop site).alone answers s ops = (.ok (), s, ops) := by
  unfold WebsocketTransport.stop
  simp [hs]

/-- What evaluating a rejected response leaves: the state it sets, or the old one where it
raises. -/
structure RejectedTo (s : State) (state : ConnectionState) (s' : State) (ops : List Op) : Prop where
  state : s'.state = state
  handshakeReceived : s'.handshakeReceived = s.handshakeReceived
  onOpen : s'.onOpen = s.onOpen
  notOpened : Op.callback .onOpen ∉ ops

variable (answers) in
theorem alone_rejectHandshake_error (s : State) (hraises : RejectionRaises answers s) :
    ∃ e s' ops, WebsocketTransport.rejectHandshake.alone answers s [] = (.error e, s', ops) ∧
      RejectedTo s s.state s' ops := by
  unfold WebsocketTransport.rejectHandshake WebsocketTransport.ws WebsocketTransport.onSocketError
    call record
  simp only [alone_bind, alone_get, alone_modify]
  cases hws : s.ws with
  | none => exact ⟨_, _, _, rfl, rfl, rfl, rfl, by simp⟩
  | some _ =>
      obtain ⟨hclose, hraised⟩ := hraises.resolve_left (by simp [hws])
      cases hanswer : answers [] (.callback (.onClose .rejected)) with
      | ok _ => simp [hanswer, Except.isOk, Except.toBool] at hraised
      | error e =>
          simp only [Option.elim_some, alone_pure, alone_when, hclose, if_true, alone_perform,
            hanswer]
          exact ⟨_, _, _, rfl, rfl, rfl, rfl, by simp⟩

variable (answers) in
theorem alone_rejectHandshake_ok (s : State) (hraises : ¬RejectionRaises answers s) :
    ∃ s' ops, WebsocketTransport.rejectHandshake.alone answers s [] = (.ok (), s', ops) ∧
      RejectedTo s .disconnected s' ops := by
  obtain ⟨hws, hreturns⟩ := not_or.mp hraises
  obtain ⟨app, hws⟩ := Option.ne_none_iff_exists'.mp hws
  unfold WebsocketTransport.rejectHandshake WebsocketTransport.ws WebsocketTransport.onSocketError
    call record
  simp only [alone_bind, alone_get, hws, Option.elim_some, alone_pure, alone_when,
    WebsocketTransport.reportEnd, WebsocketTransport.isLate, Bool.false_eq_true, if_false,
    WebsocketTransport.setState_disconnected, alone_modify]
  by_cases hclose : s.onClose = true
  · cases hanswer : answers [] (.callback (.onClose .rejected)) with
    | error e => simp [hclose, hanswer, Except.isOk, Except.toBool] at hreturns
    | ok _ =>
        simp only [hclose, if_true, alone_perform, hanswer]
        rw [alone_stop_of_ne (by simp)]
        exact ⟨_, _, rfl, rfl, rfl, rfl, by simp⟩
  · simp only [hclose, Bool.false_eq_true, if_false]
    rw [alone_stop_of_ne (by simp)]
    exact ⟨_, _, rfl, rfl, rfl, rfl, by simp⟩

theorem alone_reportOpen_of_not {s : State} {ops : List Op} (hopen : s.onOpen = false) :
    WebsocketTransport.reportOpen.alone answers s ops = (.ok (), s, ops) := by
  unfold WebsocketTransport.reportOpen
  simp [hopen]

variable (answers) in
theorem mem_alone_reportOpen {s : State} (ops : List Op) (hopen : s.onOpen = true) :
    Op.callback .onOpen ∈ (WebsocketTransport.reportOpen.alone answers s ops).2.2 := by
  unfold WebsocketTransport.reportOpen WebsocketTransport.setState call record
  simp [hopen]

/-- The state of a shut connection. -/
def IsShut (s : State) : Prop :=
  s.state = .disconnected ∧ s.handshakeReceived = false

/-- Operations other than the call of `on_open`. -/
def NotOnOpen (op : Op) : Prop :=
  op ≠ .callback .onOpen

/-- A connection that is shut, whoever else is at work. -/
abbrev ShutInv : HubInv := Pointwise IsShut fun _ => Among NotOnOpen

/-- The messages behind a rejected response do not open the connection. -/
theorem shut_onMessage {s : State} {ops : List Op} (h : Shut s ops) (messages : List Message) :
    Shut ((Connection.onMessage messages).alone answers s ops).2.1
      ((Connection.onMessage messages).alone answers s ops).2.2 := by
  let R : HubRely := ⟨.start, ShutInv, fun _ _ _ _ => True⟩
  have hmodify : ∀ f : State → State, (∀ s, (f s).state = s.state) →
      (∀ s, (f s).handshakeReceived = s.handshakeReceived) → Keeps R ShutInv (modify f : Hub Unit) := by
    intro f hstate hreceived
    refine Pointwise.modify (fun s hs => ?_) fun _ _ hl => hl
    rwa [IsShut, hstate, hreceived]
  have hperform : ∀ op, NotOnOpen op → Keeps R ShutInv (perform op) := fun op hop =>
    Pointwise.perform fun _ _ => hop
  have hdispatch : Connection.KeepsDispatch R ShutInv :=
    { calls := ⟨fun _ => hmodify _ (fun _ => rfl) fun _ => rfl,
        fun _ _ => hperform _ (by simp [NotOnOpen])⟩
      dispatched := fun _ => hmodify _ (fun _ => rfl) fun _ => rfl
      unregister := fun _ => hmodify _ (fun _ => rfl) fun _ => rfl
      event := fun _ _ => hperform _ (by simp [NotOnOpen])
      error := fun _ => hperform _ (by simp [NotOnOpen]) }
  have hstop : Keeps R ShutInv (WebsocketTransport.stop .closeMessage) := by
    intro s P h hshut
    exact WebsocketTransport.wp_stop_of_ne (by simp [hshut.base.1]) hshut
  have hall : ∀ messages, Keeps R ShutInv (Connection.onMessage messages) := fun _ =>
    Connection.keeps_onMessage (fun _ => Connection.keeps_dispatch hdispatch) hstop
  obtain ⟨hshut, hops⟩ := alone_keeps answers ops (hall messages) ⟨h.state, h.handshakeReceived⟩
  refine ⟨hshut.1, hshut.2, fun hmem => ?_⟩
  rcases hops _ hmem with hold | hallowed
  · exact h.notOpened hold
  · exact hallowed rfl

/-- A rejected response leaves the connection shut exactly where it stays shut. -/
theorem shut_iff {app : Nat} {raw : Raw} {s : State} {error : String} {messages : List Message}
    (hreceived : s.handshakeReceived = false)
    (hdecode : cfg.protocol.decodeHandshake raw = .ok (⟨.str error⟩, messages))
    (herror : error ≠ "") :
    Shut ((WebsocketTransport.onMessage cfg app raw).alone answers s []).2.1
        ((WebsocketTransport.onMessage cfg app raw).alone answers s []).2.2 ↔
      StaysShut answers s := by
  have hrejected : WebsocketTransport.isAccepted ⟨.str error⟩ = false := by
    simp [WebsocketTransport.isAccepted, Value.isNone, Value.eqStr, herror]
  unfold WebsocketTransport.onMessage WebsocketTransport.receive WebsocketTransport.interpret
    WebsocketTransport.evaluateHandshake WebsocketTransport.judge record
  simp only [alone_bind, alone_get, alone_modify, hreceived, Bool.not_false, if_true, hdecode,
    alone_ofExcept, hrejected, Bool.false_eq_true, if_false]
  -- an evaluation that raises has not set the state; one that does not goes on to `on_open`
  by_cases hraises : RejectionRaises answers s
  · obtain ⟨e, s', ops, halone, hto⟩ := alone_rejectHandshake_error answers
      { s with
        handshakeReceived := false
        history := { s.history with received := s.history.received ++ [(app, false, s.state)] } }
      hraises
    simp only [halone]
    exact ⟨fun h => ⟨fun _ => hto.state ▸ h.state, absurd hraises⟩, fun h =>
      ⟨hto.state.trans (h.1 hraises), hto.handshakeReceived, hto.notOpened⟩⟩
  · obtain ⟨s', ops, halone, hto⟩ := alone_rejectHandshake_ok answers
      { s with
        handshakeReceived := false
        history := { s.history with received := s.history.received ++ [(app, false, s.state)] } }
      hraises
    simp only [halone, alone_pure]
    cases hopen : s'.onOpen with
    | false =>
        rw [alone_reportOpen_of_not hopen]
        have hshut : Shut s' ops := ⟨hto.state, hto.handshakeReceived, hto.notOpened⟩
        exact ⟨fun _ => ⟨fun h => absurd h hraises, fun _ => hto.onOpen ▸ hopen⟩,
          fun _ => shut_onMessage hshut messages⟩
    | true =>
        have hmem := mem_alone_reportOpen answers ops hopen
        refine ⟨fun h => absurd ?_ h.notOpened, fun h => ?_⟩
        · revert hmem
          rcases WebsocketTransport.reportOpen.alone answers s' ops with ⟨e | _, s'', ops'⟩
          · exact id
          · exact fun hmem => (prefix_alone (Connection.onMessage messages)).subset hmem
        · have hnot := h.2 hraises
          rw [hto.onOpen] at hopen
          simp [hnot] at hopen

/-- A rejected response leaves the connection shut exactly where it stays shut.  In every
run that does not open a rejected connection, `on_open` is called as often as a response
is accepted while it is registered. -/
theorem rejected_handshake (cfg : Config) :
    (∀ (answers : List Op → (op : Op) → Except Exc op.Result) (app : Nat) (raw : Raw) (s : State)
      (error : String) (messages : List Message), s.handshakeReceived = false →
        cfg.protocol.decodeHandshake raw = .ok (⟨.str error⟩, messages) → error ≠ "" →
          (Shut ((WebsocketTransport.onMessage cfg app raw).alone answers s []).2.1
              ((WebsocketTransport.onMessage cfg app raw).alone answers s []).2.2 ↔
            StaysShut answers s)) ∧
      ∀ w, (hub cfg).Reach (Unopened cfg) w →
        w.shared.history.opens = w.shared.history.acceptedOpen :=
  ⟨fun _ _ _ _ _ _ hreceived hdecode herror => shut_iff hreceived hdecode herror,
    fun _ h => (balanced_proof.sound h).holds⟩

/-- Without the conditions: a rejected response connects a transport whose user has
registered `on_open`, and calls it. -/
theorem rejected_handshake_opens :
    ∃ w, (hub (.direct none)).Reach .any w ∧ w.shared.state = .connected ∧
      w.shared.history.accepted = [] ∧ w.shared.history.acceptedOpen = 0 ∧
      w.shared.history.opens = 1 :=
  ⟨_, (hub (.direct none)).reach_after [.fork (.onOpen true), .start 0, .fork .start,
    .start 1, .start 2, .answer 2 (.happened .opened), .answer 2 .done, .start 2,
    .answer 2 (.happened (.message (.text "\x7b\"error\": \"no\"\x7d\x1e")))] .start rfl,
    rfl, rfl, rfl, rfl⟩

/-- A rejected response, and an accepted one that is followed by a call of `on_open`. -/
theorem rejected_handshake_direct :
    Shut ((WebsocketTransport.onMessage (.direct none) 0
        (.text "\x7b\"error\": \"no\"\x7d\x1e")).alone (fun _ _ => .error .osError)
          { State.new (.direct none) with ws := some 0, state := .connecting } []).2.1
      ((WebsocketTransport.onMessage (.direct none) 0
        (.text "\x7b\"error\": \"no\"\x7d\x1e")).alone (fun _ _ => .error .osError)
          { State.new (.direct none) with ws := some 0, state := .connecting } []).2.2 ∧
      ∃ w, (hub (.direct none)).Reach (Unopened (.direct none)) w ∧ w.shared.history.opens = 1 ∧
        w.shared.history.opens = w.shared.history.acceptedOpen := by
  have h := (hub (.direct none)).reach_within (Unopened (.direct none))
    [.fork (.onOpen true), .start 0, .fork .start, .start 1, .start 2,
      .answer 2 (.happened .opened), .answer 2 .done, .start 2,
      .answer 2 (.happened (.message (.text "\x7b\x7d\x1e")))] .start rfl
  refine ⟨((rejected_handshake (.direct none)).1 _ _ _ _ "no" [] rfl rfl (by decide)).mpr ?_,
    _, h, rfl, (rejected_handshake (.direct none)).2 _ h⟩
  refine ⟨fun hraises => ?_, fun _ => rfl⟩
  rcases hraises with hws | ⟨hclose, -⟩
  · cases hws
  · cases hclose

end GeventSignalR
