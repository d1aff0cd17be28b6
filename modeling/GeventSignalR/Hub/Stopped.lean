import GeventSignalR.Hub.Keeps

/-!
# Runs in which `stop()` is final

`stop()` acts only on a connected transport.  When it returns while a restart is under
way, or while a websocket is left open, or when a write fails later, the connection
comes back.

* `isRevival` are the positions from which a thread can bring the connection back.
* `Conclusive` are the steps that leave nothing behind a `stop()`.
* `Quiet` is the invariant.
-/

namespace GeventSignalR

open Coop Coop.Prog

/-- The positions inside `handle_reconnect`, inside `start`, and inside the branch of
`evaluate_handshake` for a rejected handshake. -/
def isRevival : Label Op Activity → Bool
  | .blocked _ (.kill _) => true
  | .blocked _ (.auth .start) => true
  | .blocked _ (.post ..) => true
  | .blocked _ (.wsClose _ .reconnect) => true
  | .blocked _ (.wsClose _ .rejected) => true
  | .blocked _ (.callback .onReconnect) => true
  | .blocked _ (.callback (.onClose .rejected)) => true
  | _ => false

/-- No thread is at a position from which it can bring the connection back. -/
def NoRevival (P : Multiset (Label Op Activity)) : Prop :=
  ∀ l ∈ P, isRevival l = false

/-- The greenlet has ended, or the websocket is closed. -/
def App.IsGone (a : App) : Prop :=
  a.ended = true ∨ a.closed = true

/-- The websockets that a `stop()` of the user leaves, where the `close()` of its own
websocket ends. -/
def left (s : State) : (op : Op) → Except Exc op.Result → Option (List App)
  | .wsClose app .user, .ok _ => some (s.apps.eraseIdx app)
  | .wsClose _ .user, .error _ => some s.apps
  | _, _ => none

/-- When a `stop()` of the user ends, no restart is at work and every websocket is gone;
afterwards, no write fails while there is a reconnection handler. -/
def Conclusive : Cond State Exc Op Op.Result Activity where
  fork := fun _ _ _ => True
  start := fun s P t => t.isStop = true → s.state ≠ .connected ∨ s.ws = none →
    NoRevival P ∧ ∀ a ∈ s.apps, a.IsGone
  resume := fun s P _ op r =>
    (∀ apps ∈ left s op r, NoRevival P ∧ ∀ a ∈ apps, a.IsGone) ∧
      (Hub.isLost op r = true → s.history.stopped = true → s.reconnectionHandler.isNone = true)

instance (P : Multiset (Label Op Activity)) : Decidable (NoRevival P) :=
  inferInstanceAs (Decidable (∀ l ∈ P, isRevival l = false))

instance (a : App) : Decidable a.IsGone :=
  inferInstanceAs (Decidable (_ ∨ _))

instance : System.Decides Conclusive where
  fork := fun _ _ _ => isTrue trivial
  start := fun _ _ _ => inferInstanceAs (Decidable (_ → _))
  resume := fun _ _ _ _ _ => inferInstanceAs (Decidable (_ ∧ _))

/-- What holds of the state: while stopped, every websocket is gone; and nothing has
come back. -/
structure QuietState (s : State) : Prop where
  gone : s.history.stopped = true → ∀ a ∈ s.apps, a.IsGone
  revived : s.history.revived = false
  created : ∀ c ∈ s.history.creations, c.stopped = false

/-- A position that can bring the connection back is not reached while stopped. -/
def ActiveAt (s : State) (l : Label Op Activity) : Prop :=
  isRevival l = true → s.history.stopped = false

/-- The invariant. -/
def Quiet : HubInv :=
  Pointwise QuietState ActiveAt

/-- The invariant in a thread that is not stopped. -/
structure Active (s : State) (P : Multiset (Label Op Activity)) : Prop where
  quiet : Quiet s P
  active : s.history.stopped = false

variable {cfg : Config} {t : Activity}

/-- What the proof assumes. -/
abbrev conclusive (cfg : Config) (t : Activity) : HubRely :=
  (hub cfg).rely Conclusive Quiet t

/-! ## Leaves -/

/-- What the invariant reads of the state. -/
def revivals (s : State) : List App × Bool × Bool × List Creation :=
  (s.apps, s.history.stopped, s.history.revived, s.history.creations)

/-- The invariant in a state that agrees on it. -/
theorem quiet_congr {s s' : State} {P : Multiset (Label Op Activity)}
    (hquiet : Quiet s P) (hs : revivals s' = revivals s) : Quiet s' P := by
  simp only [revivals, Prod.mk.injEq] at hs
  refine ⟨⟨?_, ?_, ?_⟩, fun l hl => ?_⟩
  · simpa only [hs] using hquiet.base.gone
  · simpa only [hs] using hquiet.base.revived
  · simpa only [hs] using hquiet.base.created
  · simpa only [ActiveAt, hs] using hquiet.at_ l hl

theorem active_congr {s s' : State} {P : Multiset (Label Op Activity)}
    (hactive : Active s P) (hs : revivals s' = revivals s) : Active s' P := by
  have hstopped : s'.history.stopped = s.history.stopped := congrArg (fun v => v.2.1) hs
  exact ⟨quiet_congr hactive.quiet hs, hstopped.trans hactive.active⟩

theorem quiet_modify {f : State → State} (hf : ∀ s, revivals (f s) = revivals s) :
    Keeps (conclusive cfg t) Quiet (modify f : Hub Unit) :=
  Keeps.modify fun s _ h => quiet_congr h (hf s)

theorem active_modify {f : State → State} (hf : ∀ s, revivals (f s) = revivals s) :
    Keeps (conclusive cfg t) Active (modify f : Hub Unit) :=
  Keeps.modify fun s _ h => active_congr h (hf s)

/-- A change of a websocket that does not bring it back. -/
theorem quiet_modifyApp {s : State} {P : Multiset (Label Op Activity)} {app : Nat} {f : App → App}
    (hf : ∀ a, a.IsGone → (f a).IsGone) (h : Quiet s P) :
    Quiet { s with apps := s.apps.modify app f } P := by
  refine ⟨⟨?_, h.base.revived, h.base.created⟩, h.at_⟩
  intro hstopped a ha
  obtain ⟨other, hother⟩ := List.getElem?_of_mem ha
  obtain ⟨b, hb, rfl⟩ := getElem?_modify_some hother
  have hgone := h.base.gone hstopped b (List.mem_of_getElem? hb)
  split_ifs
  · exact hf b hgone
  · exact hgone

theorem quiet_setApp {app : Nat} {f : App → App} (hf : ∀ a, a.IsGone → (f a).IsGone) :
    Keeps (conclusive cfg t) Quiet (setApp app f) :=
  Keeps.modify fun _ _ h => quiet_modifyApp hf h

theorem active_setApp {app : Nat} {f : App → App} (hf : ∀ a, a.IsGone → (f a).IsGone) :
    Keeps (conclusive cfg t) Active (setApp app f) :=
  Keeps.modify fun _ _ h => ⟨quiet_modifyApp hf h.quiet, h.active⟩

/-- An operation behind which the thread may find the connection stopped. -/
theorem quiet_perform {op : Op} (hop : isRevival (.blocked t op) = false) :
    Keeps (conclusive cfg t) Quiet (perform op) :=
  Pointwise.perform fun _ _ h => by simp [hop] at h

/-- An operation during which nothing is stopped. -/
theorem active_perform {op : Op} (hop : isRevival (.blocked t op) = true) :
    Keeps (conclusive cfg t) Active (perform op) := by
  refine Keeps.perform ?_ ?_
  · exact fun s P h => h.quiet.cons fun _ => h.active
  · exact fun s P r h _ => ⟨h.tail, h.head hop⟩

theorem quiet_setState {value : ConnectionState} (hvalue : value ≠ .connected) :
    Keeps (conclusive cfg t) Quiet (WebsocketTransport.setState value) :=
  Keeps.bind (quiet_modify fun _ => rfl) fun _ => Keeps.when fun h =>
    absurd (of_decide_eq_true h) hvalue

theorem active_setState (value : ConnectionState) :
    Keeps (conclusive cfg t) Active (WebsocketTransport.setState value) := by
  refine Keeps.bind (active_modify fun _ => rfl) fun _ => Keeps.when fun _ => ?_
  refine Keeps.modify fun s P h => ⟨⟨⟨h.quiet.base.gone, ?_, h.quiet.base.created⟩,
    h.quiet.at_⟩, h.active⟩
  simp [h.quiet.base.revived, h.active]

theorem active_setHandler (f : ReconnectionHandler → ReconnectionHandler) :
    Keeps (conclusive cfg t) Active (WebsocketTransport.setHandler f) :=
  active_modify fun _ => rfl

theorem quiet_call {callback : Callback} (hcallback : isRevival (.blocked t (.callback callback)) = false) :
    Keeps (conclusive cfg t) Quiet (call callback) :=
  quiet_perform hcallback

theorem isGone_closed (a : App) (h : a.IsGone) : App.IsGone { a with closed := true } :=
  h.elim .inl fun _ => .inr rfl

theorem quiet_stop {site : StopSite} (hsite : ∀ app, isRevival (.blocked t (.wsClose app site)) = false) :
    Keeps (conclusive cfg t) Quiet (WebsocketTransport.stop site) :=
  WebsocketTransport.keeps_stop (quiet_modify fun _ => rfl)
    (WebsocketTransport.keeps_closeWs (fun _ => quiet_setApp fun _ h => h)
      (fun app => quiet_perform (hsite app)) fun _ => quiet_setApp isGone_closed)
    (quiet_setState (by decide)) (quiet_modify fun _ => rfl)

theorem active_stop {site : StopSite} (hsite : ∀ app, isRevival (.blocked t (.wsClose app site)) = true) :
    Keeps (conclusive cfg t) Active (WebsocketTransport.stop site) :=
  WebsocketTransport.keeps_stop (active_modify fun _ => rfl)
    (WebsocketTransport.keeps_closeWs (fun _ => active_setApp fun _ h => h)
      (fun app => active_perform (hsite app)) fun _ => active_setApp isGone_closed)
    (active_setState _) (active_modify fun _ => rfl)

/-! ## Restarts -/

theorem active_createApp : Keeps (conclusive cfg t) Active WebsocketTransport.createApp := by
  intro s P h hactive
  unfold WebsocketTransport.createApp record
  simp only [wp_bind, wp_get, wp_modify, wp_fork]
  refine ⟨⟨⟨?_, hactive.quiet.base.revived, ?_⟩, ?_⟩, hactive.active⟩
  · intro hstopped
    exact absurd hstopped (by simp [hactive.active])
  · intro c hc
    rcases List.mem_append.mp hc with hc | hc
    · exact hactive.quiet.base.created c hc
    · simp only [List.mem_singleton] at hc
      subst hc
      exact hactive.active
  · intro l _ _
    exact hactive.active

theorem active_start : Keeps (conclusive cfg t) Active (Connection.start cfg) :=
  Connection.keeps_start
    (Connection.keeps_refreshTokenMaybe (active_perform rfl) fun _ => active_modify fun _ => rfl)
    (WebsocketTransport.keeps_start
      (WebsocketTransport.keeps_negotiate (fun _ _ => active_perform rfl)
        fun _ _ => active_modify fun _ => rfl)
      (active_setState _) active_createApp)

theorem active_handleReconnect :
    Keeps (conclusive cfg t) Active (WebsocketTransport.handleReconnect cfg) :=
  WebsocketTransport.keeps_handleReconnect
    (WebsocketTransport.keeps_reportReconnect (active_modify fun _ => rfl) (active_perform rfl))
    (WebsocketTransport.keeps_setReconnecting active_setHandler)
    (WebsocketTransport.keeps_reconnect
      (WebsocketTransport.keeps_stopLost (active_stop fun _ => rfl) (active_setState _))
      (WebsocketTransport.keeps_killGreenlet
        (fun _ => WebsocketTransport.keeps_killApp (fun _ => active_modify fun _ => rfl)
          (active_setApp fun _ h => h))
        fun _ => active_perform rfl)
      (active_modify fun _ => rfl) (active_modify fun _ => rfl) active_start)
    fun _ => WebsocketTransport.keeps_deferReconnect
      (WebsocketTransport.keeps_nextSleepTime active_setHandler fun _ => active_modify fun _ => rfl)
      fun _ => Keeps.fork fun _ _ h => ⟨h.quiet.cons fun _ => h.active, h.active⟩

/-- Where a write fails while stopped, there is no reconnection handler. -/
structure Refused (s : State) (P : Multiset (Label Op Activity)) : Prop where
  quiet : Quiet s P
  noHandler : s.history.stopped = true → s.reconnectionHandler.isNone = true

/-- A write that fails while stopped does not reconnect. -/
theorem quiet_connectionLost (e : Exc) :
    Leads (conclusive cfg t) Refused Quiet (WebsocketTransport.connectionLost cfg e) := by
  intro s P h hrefused
  unfold WebsocketTransport.connectionLost WebsocketTransport.setHandshakeReceived
  simp only [wp_bind, wp_modify, wp_get, WebsocketTransport.setState_disconnected]
  split_ifs with hhandler
  · exact WebsocketTransport.keeps_reportLost (quiet_call rfl) _ P h
      (quiet_congr hrefused.quiet rfl)
  · have hactive : s.history.stopped = false := by
      by_contra hstopped
      exact hhandler (hrefused.noHandler (by simpa using hstopped))
    refine wp_mono (fun _ _ _ _ h => h.quiet) (active_handleReconnect _ P h ?_)
    exact active_congr ⟨hrefused.quiet, hactive⟩ rfl

theorem quiet_send (message : Outgoing) :
    Keeps (conclusive cfg t) Quiet (WebsocketTransport.send cfg message) :=
  WebsocketTransport.keeps_send_of_lost (fun _ => quiet_modify fun _ => rfl)
    (fun _ => quiet_perform rfl) (fun _ _ => quiet_setApp fun _ h => h)
    (fun _ _ _ _ hquiet hres he => ⟨quiet_modifyApp (fun _ h => h) hquiet.tail, hres.1.2 he⟩)
    (quiet_modify fun _ => rfl) (fun _ => quiet_modify fun _ => rfl) quiet_connectionLost

/-! ## Events -/

theorem quiet_reportEnd (site : CloseSite) :
    Keeps (conclusive cfg t) Quiet (WebsocketTransport.reportEnd site) :=
  WebsocketTransport.keeps_reportEnd (quiet_modify fun _ => rfl) (quiet_setState (by decide))

theorem quiet_onSocketError {site : CloseSite}
    (hsite : isRevival (.blocked t (.callback (.onClose site))) = false) :
    Keeps (conclusive cfg t) Quiet (WebsocketTransport.onSocketError site) :=
  WebsocketTransport.keeps_onSocketError (quiet_reportEnd _) (quiet_call hsite)

theorem active_evaluateHandshake (app : Nat) (raw : Raw) :
    Keeps (conclusive cfg t) Active (WebsocketTransport.evaluateHandshake cfg app raw) := by
  have hchecker : Keeps (conclusive cfg t) Active ConnectionStateChecker.start :=
    Keeps.bind (active_modify fun _ => rfl) fun _ =>
      Keeps.fork fun _ _ h => ⟨h.quiet.cons fun _ => h.active, h.active⟩
  have haccept : Keeps (conclusive cfg t) Active (WebsocketTransport.acceptHandshake app) :=
    Keeps.bind (active_modify fun _ => rfl) fun _ => Keeps.bind (active_setState _) fun _ =>
      Keeps.bind .get fun _ => Keeps.bind (active_modify fun _ => rfl) fun _ =>
        WebsocketTransport.keeps_handshakeDone active_setHandler hchecker
  have hreject : Keeps (conclusive cfg t) Active WebsocketTransport.rejectHandshake :=
    WebsocketTransport.keeps_rejectHandshake (active_modify fun _ => rfl)
      (WebsocketTransport.keeps_onSocketError
        (WebsocketTransport.keeps_reportEnd (active_modify fun _ => rfl) (active_setState _))
        (active_perform rfl))
      (active_stop fun _ => rfl) (active_setState _)
  exact WebsocketTransport.keeps_evaluateHandshake fun _ =>
    WebsocketTransport.keeps_judge haccept hreject

/-- The user may call `stop()` in the `on_open` callback. -/
theorem active_receive (app : Nat) (raw : Raw) :
    Leads (conclusive cfg t) Active Quiet (WebsocketTransport.receive cfg app raw) := by
  have hquiet : ∀ s P, Active s P → Quiet s P := fun _ _ h => h.quiet
  have hopen : Leads (conclusive cfg t) Active Quiet WebsocketTransport.reportOpen :=
    Leads.bind hquiet .get fun _ => Leads.when hquiet fun _ =>
      Leads.bind hquiet (active_setState _) fun _ =>
        Leads.bind hquiet (active_modify fun _ => rfl) fun _ =>
          Leads.to_keeps hquiet (quiet_call rfl)
  refine Leads.bind hquiet .get fun _ => Leads.bind hquiet (active_modify fun _ => rfl) fun _ =>
    Leads.ite (fun _ => ?_) fun _ => Leads.of_keeps hquiet (.ofExcept _)
  exact Leads.bind hquiet (active_evaluateHandshake app raw) fun _ =>
    Leads.bind_keeps hopen fun _ => .pure _

theorem quiet_dispatch : Connection.KeepsDispatch (conclusive cfg t) Quiet where
  calls := ⟨fun _ => quiet_modify fun _ => rfl, fun _ _ => quiet_call rfl⟩
  dispatched := fun _ => quiet_modify fun _ => rfl
  unregister := fun _ => quiet_modify fun _ => rfl
  event := fun _ _ => quiet_call rfl
  error := fun _ => quiet_call rfl

/-- A message arrives on a websocket that is not gone, hence before any `stop()`. -/
theorem active_of_message {s : State} {P : Multiset (Label Op Activity)} {app : Nat} {raw : Raw}
    (hquiet : Quiet s (.blocked t (.event app) ::ₘ P))
    (hpossible : (hub cfg).Possible s (.event app) (.ok (.message raw))) : Active s P := by
  refine ⟨hquiet.tail, ?_⟩
  obtain ⟨a, ha, hpossible⟩ := Hub.possible_event hpossible
  by_contra hstopped
  rcases hquiet.base.gone (by simpa using hstopped) a (List.mem_of_getElem? ha) with hended | hclosed
  · simp [Hub.isPossible, hended] at hpossible
  · simp [Hub.isPossible, hclosed] at hpossible

theorem quiet_round (app : Nat) : WebSocketApp.KeepsRound (conclusive cfg t) Quiet cfg app where
  block := fun _ _ h => h.cons fun h => by simp [isRevival] at h
  resume := fun _ _ _ h _ => h.tail
  opened := fun s P h hinv _ => WebSocketApp.keeps_handleOpened (quiet_setApp fun _ h => h)
    (WebSocketApp.keeps_callback (quiet_send _) (quiet_onSocketError rfl)) s P h hinv.tail
  message := by
    intro raw s P h hinv hresume
    refine WebSocketApp.leads_handleMessage (active_receive app raw) (fun _ => ?_)
      (quiet_onSocketError rfl) s P h (active_of_message hinv hresume.2)
    exact Connection.keeps_onMessage (fun _ => Connection.keeps_dispatch quiet_dispatch)
      (quiet_stop fun _ => rfl)
  silent := quiet_setApp fun _ h => h
  error := WebSocketApp.keeps_callback (quiet_onSocketError rfl) (quiet_onSocketError rfl)

theorem quiet_runForever (app : Nat) :
    Keeps (conclusive cfg t) Quiet (WebSocketApp.runForever cfg app) := by
  have hended : Keeps (conclusive cfg t) Quiet (setApp app fun a => { a with ended := true }) :=
    quiet_setApp fun _ _ => .inl rfl
  have hclosed : Keeps (conclusive cfg t) Quiet (WebsocketTransport.onClosed app) :=
    WebsocketTransport.keeps_onClosed (quiet_reportEnd _) (quiet_call rfl)
  exact WebSocketApp.keeps_runForever (quiet_setApp fun _ h => h) hended
    (WebSocketApp.keeps_round (quiet_round app))
    (WebSocketApp.keeps_teardown (quiet_setApp fun _ h => h)
      (WebSocketApp.keeps_callback hclosed (quiet_onSocketError rfl)) hended)

theorem quiet_register (handler : Handler) :
    Keeps (conclusive cfg t) Quiet (Connection.register handler) :=
  Connection.keeps_register (quiet_modify fun _ => rfl) (quiet_modify fun _ => rfl)

theorem quiet_activities : KeepsActivities (conclusive cfg t) Quiet cfg where
  send := quiet_send
  auth := quiet_perform rfl
  sleep := fun _ => quiet_perform rfl
  acquire := fun _ => quiet_perform rfl
  register := quiet_register
  modify := fun hf => quiet_modify fun s => (congrArg revivals (hf s) :)

/-! ## `start()` and `stop()` -/

/-- A `start()` of the user. -/
theorem quiet_userStart : Leads (conclusive cfg t) Quiet Quiet (Hub.body cfg .start) := by
  intro s P h hquiet
  have hactive : Active { s with history := { s.history with stopped := false } } P :=
    ⟨⟨⟨(fun h => by cases h), hquiet.base.revived, hquiet.base.created⟩, fun _ _ _ => rfl⟩, rfl⟩
  exact Leads.of_keeps (fun _ _ h => h.quiet) (keeps_once active_start) _ P h hactive

/-- Nothing is left that could bring the connection back. -/
structure Concluded (s : State) (P : Multiset (Label Op Activity)) : Prop where
  quiet : Quiet s P
  noRevival : NoRevival P
  gone : ∀ a ∈ s.apps, a.IsGone

theorem concluded_stopped {s : State} {P : Multiset (Label Op Activity)} (h : Concluded s P) :
    Quiet { s with history := { s.history with stopped := true } } P := by
  refine ⟨⟨fun _ => h.gone, h.quiet.base.revived, h.quiet.base.created⟩, ?_⟩
  intro l hl hrevival
  simp [h.noRevival l hl] at hrevival

theorem concluded_modify {f : State → State} (hf : ∀ s, revivals (f s) = revivals s) :
    Keeps (conclusive cfg t) Concluded (modify f : Hub Unit) := by
  refine Keeps.modify fun s P h => ⟨quiet_congr h.quiet (hf s), h.noRevival, ?_⟩
  have happs : (f s).apps = s.apps := congrArg Prod.fst (hf s)
  simpa only [happs] using h.gone

/-- The websocket that was left is closed. -/
theorem concluded_closed {app : Nat} {s : State} {P : Multiset (Label Op Activity)}
    (hquiet : Quiet s P) (hno : NoRevival P) (hgone : ∀ a ∈ s.apps.eraseIdx app, a.IsGone) :
    Concluded { s with apps := s.apps.modify app fun a => { a with closed := true } } P := by
  refine ⟨quiet_modifyApp isGone_closed hquiet, hno, ?_⟩
  intro a ha
  obtain ⟨other, hother⟩ := List.getElem?_of_mem ha
  obtain ⟨b, hb, rfl⟩ := getElem?_modify_some hother
  split_ifs with happ
  · exact .inr rfl
  · exact hgone b (List.mem_eraseIdx_iff_getElem?.mpr ⟨other, Ne.symm happ, hb⟩)

/-- Behind `stop()` everything is gone, whether it returns or raises. -/
theorem concluded_stop {s : State} {P : Multiset (Label Op Activity)}
    {h : List (Logged State Exc Op Op.Result)} (hquiet : Quiet s P)
    (hstart : s.state ≠ .connected ∨ s.ws = none → NoRevival P ∧ ∀ a ∈ s.apps, a.IsGone) :
    (WebsocketTransport.stop .user).wp (conclusive cfg t) (fun _ s P _ => Concluded s P) s P h := by
  have hend : Keeps (conclusive cfg t) Concluded (do
      WebsocketTransport.setState .disconnected
      WebsocketTransport.setHandshakeReceived false) :=
    Keeps.bind (concluded_modify fun _ => rfl) fun _ => concluded_modify fun _ => rfl
  have hchecker : Keeps (conclusive cfg t) Quiet ConnectionStateChecker.stop :=
    quiet_modify fun _ => rfl
  unfold WebsocketTransport.stop ConnectionStateChecker.stop WebsocketTransport.closeWs setApp
  simp only [wp_bind, wp_get, wp_when, wp_modify]
  split_ifs with hstate
  · cases hws : s.ws with
    | none =>
        obtain ⟨hno, hgone⟩ := hstart (.inr hws)
        refine hend _ P h ⟨?_, hno, hgone⟩
        exact hws ▸ hchecker.apply hquiet
    | some app =>
        simp only [Option.elim_some, wp_bind, wp_modify]
        rw [wp_perform]
        have hclosing : Keeps (conclusive cfg t) Quiet
            (modify fun s => { s with apps := s.apps.modify app fun a => { a with closing := true } }) :=
          quiet_setApp fun _ h => h
        have hquiet' := hclosing.apply (hchecker.apply hquiet)
        refine ⟨hws ▸ hquiet'.cons fun h => by simp [isRevival] at h, ?_⟩
        rintro s P (e | _) hquiet ⟨⟨hleft, -⟩, -⟩
        · exact ⟨hquiet.tail, (hleft _ rfl).1, (hleft _ rfl).2⟩
        · obtain ⟨hno, hgone⟩ := hleft _ rfl
          exact hend _ P h (concluded_closed hquiet.tail hno hgone)
  · obtain ⟨hno, hgone⟩ := hstart (.inl fun h => hstate (by simp [h]))
    exact ⟨hquiet, hno, hgone⟩

/-- A `stop()` of the user. -/
theorem quiet_userStop {s : State} {P : Multiset (Label Op Activity)}
    {h : List (Logged State Exc Op Op.Result)} (hquiet : Quiet s P)
    (hstart : Conclusive.start s P .stop) :
    (Hub.body cfg .stop).wp (conclusive cfg t) (fun _ s P _ => Quiet s P) s P h := by
  change (Hub.once _).wp (conclusive cfg t) _ s P h
  unfold Hub.once
  simp only [wp_bind, wp_finally]
  refine wp_mono ?_ (concluded_stop hquiet (hstart rfl))
  rintro (e | _) s P h hconcluded
  · exact concluded_stopped hconcluded
  · exact concluded_stopped hconcluded

/-- The invariant holds along every conclusive run. -/
theorem quiet_proof : Proof (hub cfg) Conclusive Quiet fun _ _ _ _ => True := by
  refine Hub.proof ⟨fun _ _ _ h => quiet_congr h rfl, fun _ _ _ _ h => h,
    fun _ _ _ _ _ _ h => h⟩ ?_
    (fun _ _ _ hquiet _ _ => hquiet.cons fun h => by simp [isRevival] at h) ?_
  · exact ⟨⟨fun _ => by simp [State.new], rfl, by simp [State.new, History.new]⟩, by simp⟩
  · intro s P t hquiet hstart
    have hready : ∀ s P, Quiet s P → Quiet s (.ready t ::ₘ P) :=
      fun _ _ h => h.cons fun h => by simp [isRevival] at h
    by_cases hstart' : t = .start
    · subst hstart'
      exact ends_of_wp hready (quiet_userStart s P [] hquiet.tail)
    · by_cases hstop : t = .stop
      · subst hstop
        exact ends_of_wp hready (quiet_userStop hquiet.tail hstart)
      · exact ends_of_wp hready (quiet_activities.body hstart' hstop
          (fun app _ => quiet_runForever app) s P [] hquiet.tail)

/-- In every conclusive run nothing creates a websocket or sets the state to
`connected` between the end of a `stop()` and the next `start()` of the user. -/
theorem conclusive_stop {w : World State Exc Op Op.Result Activity}
    (h : (hub cfg).Reach Conclusive w) :
    w.shared.history.revived = false ∧ ∀ c ∈ w.shared.history.creations, c.stopped = false := by
  have hs : QuietState w.shared := (quiet_proof.sound h).holds.base
  exact ⟨hs.revived, hs.created⟩

/-- Without the condition: `stop()` while connecting leaves the websocket open, and its
handshake connects the stopped transport. -/
theorem revived_stop :
    ∃ w, (hub (.direct none)).Reach .any w ∧ w.shared.history.stopped = true ∧
      w.shared.history.revived = true ∧ w.shared.state = .connected :=
  ⟨_, (hub (.direct none)).reach_after [.fork .start, .start 0, .start 1, .fork .stop,
    .start 2, .answer 1 (.happened .opened), .answer 1 .done, .start 1,
    .answer 1 (.happened (.message (.text "\x7b\x7d\x1e")))] .start rfl, rfl, rfl, rfl⟩

/-- A connection that was opened, handshaken and stopped. -/
theorem conclusive_stop_connected :
    ∃ w, (hub (.direct none)).Reach Conclusive w ∧ w.shared.history.stopped = true ∧
      w.shared.history.revived = false ∧ ∀ c ∈ w.shared.history.creations, c.stopped = false := by
  have h := (hub (.direct none)).reach_within Conclusive [.fork .start, .start 0, .start 1,
    .answer 1 (.happened .opened), .answer 1 .done, .start 1,
    .answer 1 (.happened (.message (.text "\x7b\x7d\x1e"))), .start 1, .fork .stop, .start 2,
    .answer 2 .done] .start rfl
  exact ⟨_, h, rfl, conclusive_stop h⟩

end GeventSignalR
