import GeventSignalR.Hub.Waiting

/-!
# The shape of a connection

What is true of the attributes of a connection, and of every call that is pending, in every run.

* `Shaped` is about the attributes: `_ws` and `_greenlet` belong to the last websocket, the messages
  went to one websocket after the other, and the reconnection handler is the configured one.
* `Placed` is about the pending calls: what had to be configured, or done, for them to be made.
-/

namespace GeventSignalR

open Coop Coop.Prog WebsocketTransport

/-- The times to sleep between the attempts. -/
def ReconnectionPolicy.times : ReconnectionPolicy → List Int
  | .raw sleepTime _ => [sleepTime]
  | .interval intervals => intervals

/-- The last websocket. -/
def newest (apps : List App) : Option Nat :=
  match apps.length with
  | 0 => none
  | n + 1 => some n

/-- The greenlet of the websocket is being killed, or was. -/
def Killed (s : State) (app : Nat) : Prop :=
  ∃ a, s.apps[app]? = some a ∧ a.killed = true

/-- The attributes of a connection. -/
structure Shaped (cfg : Config) (s : State) : Prop where
  ws : s.ws = newest s.apps
  greenlet : s.greenlet = s.ws
  creations : s.history.creations.length = s.apps.length
  /-- No message is handed to a websocket that another one has replaced. -/
  order : (s.history.handed.map (·.app)).Pairwise (· ≤ ·)
  handed : ∀ app ∈ s.history.handed.map (·.app), app < s.apps.length
  state : s.state ≠ .reconnecting
  connectionAlive : s.connectionAlive = false
  policy : s.reconnectionHandler.map (·.policy) = cfg.reconnection

/-- A time to sleep before the next attempt. -/
def Scheduled (cfg : Config) (sleepTime : Int) : Prop :=
  ∃ policy, cfg.reconnection = some policy ∧ sleepTime ∈ policy.times

/-- A pending call, and the greenlet that waits for it. -/
structure Placed (cfg : Config) (s : State) (l : Label Op Activity) : Prop where
  kill : ∀ app, pendingOp l = some (.kill app) → Killed s app
  post : ∀ url headers, pendingOp l = some (.post url headers) →
    cfg.skipNegotiation = false ∧ url = getNegotiateUrl cfg.urllib cfg.url
  auth : ∀ site, pendingOp l = some (.auth site) → cfg.auth = true
  deferred : ∀ sleepTime, l.thread = .deferredReconnect sleepTime → Scheduled cfg sleepTime
  checker : l.thread = .checkerRun → cfg.reconnection.isSome = true

/-- The invariant. -/
abbrev ShapedInv (cfg : Config) : HubInv :=
  Pointwise (Shaped cfg) (Placed cfg)

/-- The invariant to a running thread. -/
abbrev Shaping (cfg : Config) (t : Activity) : HubInv :=
  fun s P => ShapedInv cfg s (.ready t ::ₘ P)

variable {cfg : Config} {t : Activity} {s s' : State} {P : Multiset (Label Op Activity)} {app : Nat}

/-- What the proof assumes. -/
abbrev shaped (cfg : Config) (t : Activity) : HubRely :=
  (hub cfg).rely .any (ShapedInv cfg) t

/-! ## Changes of the state -/

/-- What the invariant reads of the state, but for `state` itself. -/
def shapeView (s : State) : Option Nat × Option Nat × List Bool × Nat × List Nat × Bool ×
    Option ReconnectionPolicy :=
  (s.ws, s.greenlet, s.apps.map (·.killed), s.history.creations.length,
    s.history.handed.map (·.app), s.connectionAlive, s.reconnectionHandler.map (·.policy))

theorem newest_eq {apps apps' : List App} (h : apps'.length = apps.length) :
    newest apps' = newest apps := by
  unfold newest
  rw [h]

theorem Shaped.congr (h : Shaped cfg s) (hs : shapeView s' = shapeView s)
    (hstate : s'.state ≠ .reconnecting) : Shaped cfg s' := by
  simp only [shapeView, Prod.mk.injEq] at hs
  obtain ⟨hws, hgreenlet, happs, hcreations, hhanded, halive, hpolicy⟩ := hs
  have hlength : s'.apps.length = s.apps.length := by
    simpa using congrArg List.length happs
  refine ⟨?_, ?_, ?_, ?_, ?_, hstate, halive.trans h.connectionAlive, hpolicy.trans h.policy⟩
  · rw [hws, h.ws, newest_eq hlength]
  · rw [hgreenlet, h.greenlet, hws]
  · rw [hcreations, h.creations, hlength]
  · rw [hhanded]
    exact h.order
  · rw [hhanded, hlength]
    exact h.handed

theorem Killed.congr (h : Killed s app) (hs : s'.apps.map (·.killed) = s.apps.map (·.killed)) :
    Killed s' app := by
  obtain ⟨a, ha, hkilled⟩ := h
  have hget := congrArg (·[app]?) hs
  simp only [List.getElem?_map, ha, Option.map_some] at hget
  obtain ⟨a', ha', hsame⟩ := Option.map_eq_some_iff.mp hget
  exact ⟨a', ha', hsame.trans hkilled⟩

/-- Nothing that was killed comes to life. -/
theorem Placed.mono {l : Label Op Activity} (h : Placed cfg s l)
    (hkilled : ∀ app, Killed s app → Killed s' app) : Placed cfg s' l :=
  { h with kill := fun app hpending => hkilled app (h.kill app hpending) }

theorem shaping_congr (h : Shaping cfg t s P) (hs : shapeView s' = shapeView s)
    (hstate : s'.state ≠ .reconnecting) : Shaping cfg t s' P := by
  have happs : s'.apps.map (·.killed) = s.apps.map (·.killed) := congrArg (·.2.2.1) hs
  exact ⟨h.base.congr hs hstate, fun l hl => (h.at_ l hl).mono fun _ hkilled => hkilled.congr happs⟩

/-! ## Positions -/

/-- What its thread says of a position. -/
theorem Placed.ready {l : Label Op Activity} (h : Placed cfg s l) :
    Placed cfg s (.ready l.thread) where
  kill := by rintro app ⟨⟩
  post := by rintro url headers ⟨⟩
  auth := by rintro site ⟨⟩
  deferred := h.deferred
  checker := h.checker

/-- The running thread takes another position. -/
theorem ShapedInv.move {l l' : Label Op Activity} (h : ShapedInv cfg s (l ::ₘ P))
    (hl : Placed cfg s l → Placed cfg s l') : ShapedInv cfg s (l' ::ₘ P) :=
  Pointwise.cons h.tail (hl h.head)

/-- A thread that the user may start has nothing to show. -/
theorem placed_ready (hdeferred : ∀ sleepTime, t ≠ .deferredReconnect sleepTime)
    (hchecker : t ≠ .checkerRun) : Placed cfg s (.ready t) where
  kill := by rintro app ⟨⟩
  post := by rintro url headers ⟨⟩
  auth := by rintro site ⟨⟩
  deferred := fun sleepTime hthread => absurd hthread (hdeferred sleepTime)
  checker := fun hthread => absurd hthread hchecker

/-- An operation for which nothing had to be done. -/
def needsNothing : Op → Bool
  | .kill _ | .post .. | .auth _ => false
  | _ => true

/-! ## Leaves -/

theorem shaping_modify {f : State → State} (hf : ∀ s, shapeView (f s) = shapeView s)
    (hstate : ∀ s, (f s).state = s.state) :
    Keeps (shaped cfg t) (Shaping cfg t) (modify f : Hub Unit) :=
  Keeps.modify fun s _ h => shaping_congr h (hf s) (hstate s ▸ h.base.state)

theorem shaping_setApp {f : App → App} (hf : ∀ a, (f a).killed = a.killed) :
    Keeps (shaped cfg t) (Shaping cfg t) (setApp app f) :=
  shaping_modify (fun s => by simp only [shapeView, map_modify hf]) fun _ => rfl

theorem shaping_block {op : Op}
    (hop : ∀ s, Placed cfg s (.ready t) → Placed cfg s (.blocked t op)) :
    Keeps (shaped cfg t) (Shaping cfg t) (perform op) :=
  Keeps.perform (fun s _ h => ShapedInv.move h (hop s)) fun _ _ _ h _ =>
    ShapedInv.move h Placed.ready

theorem shaping_perform {op : Op} (hop : needsNothing op = true) :
    Keeps (shaped cfg t) (Shaping cfg t) (perform op) := by
  refine shaping_block fun s h => ⟨?_, ?_, ?_, h.deferred, h.checker⟩
  · rintro app ⟨⟩
    cases hop
  · rintro url headers ⟨⟩
    cases hop
  · rintro site ⟨⟩
    cases hop

/-- A new thread. -/
theorem Shaping.fork {t' : Activity} (h : Shaping cfg t s P) (ht' : Placed cfg s (.ready t')) :
    Shaping cfg t s (.ready t' ::ₘ P) := by
  have hcons : ShapedInv cfg s (.ready t' ::ₘ .ready t ::ₘ P) := Pointwise.cons h ht'
  rwa [Multiset.cons_swap] at hcons

theorem shaping_setState {value : ConnectionState} (hvalue : value ≠ .reconnecting) :
    Keeps (shaped cfg t) (Shaping cfg t) (setState value) :=
  Keeps.bind (Keeps.modify fun _ _ h => shaping_congr h rfl hvalue) fun _ =>
    Keeps.when fun _ => shaping_modify (fun _ => rfl) fun _ => rfl

/-- No code changes the policy of the reconnection handler. -/
theorem shaping_setHandler {f : ReconnectionHandler → ReconnectionHandler}
    (hf : ∀ handler, (f handler).policy = handler.policy) :
    Keeps (shaped cfg t) (Shaping cfg t) (setHandler f) := by
  refine shaping_modify (fun s => ?_) fun _ => rfl
  show (_, _, _, _, _, _, (s.reconnectionHandler.map f).map (·.policy)) = shapeView s
  rw [Option.map_map]
  have hsame : (·.policy) ∘ f = (·.policy) := funext hf
  rw [hsame]
  rfl

/-! ## The transport -/

theorem shaping_stop (site : StopSite) :
    Keeps (shaped cfg t) (Shaping cfg t) (stop site) :=
  keeps_stop (shaping_modify (fun _ => rfl) fun _ => rfl)
    (keeps_closeWs (fun _ => shaping_setApp fun _ => rfl) (fun _ => shaping_perform rfl)
      fun _ => shaping_setApp fun _ => rfl)
    (shaping_setState (by simp)) (shaping_modify (fun _ => rfl) fun _ => rfl)

/-- The new websocket is the last one. -/
theorem shaping_createApp : Keeps (shaped cfg t) (Shaping cfg t) createApp := by
  intro s P h hI
  unfold createApp record
  simp only [wp_bind, wp_get, wp_modify, wp_fork]
  have hkilled : ∀ new app, Killed s app → Killed { s with apps := s.apps ++ [new] } app := by
    rintro new app ⟨a, ha, hkilled⟩
    exact ⟨a, by
      have hlt : app < s.apps.length := (List.getElem?_eq_some_iff.mp ha).1
      exact (List.getElem?_append_left hlt).trans ha, hkilled⟩
  refine Shaping.fork ⟨⟨?_, rfl, ?_, hI.base.order, ?_, hI.base.state, hI.base.connectionAlive,
    hI.base.policy⟩, fun l hl => (hI.at_ l hl).mono (hkilled _)⟩ (placed_ready (by simp) (by simp))
  · simp [newest]
  · simp [hI.base.creations]
  · intro app happ
    have hlt : app < s.apps.length := hI.base.handed app happ
    simp only [List.length_append, List.length_singleton]
    omega

theorem shaping_refresh (site : AuthSite) :
    Keeps (shaped cfg t) (Shaping cfg t) (Connection.refreshTokenMaybe cfg site) := by
  refine Keeps.when fun hauth => Keeps.bind (shaping_block fun s h => ?_) fun _ =>
    keeps_elim (.pure _) fun _ => shaping_modify (fun _ => rfl) fun _ => rfl
  exact ⟨by rintro app ⟨⟩, by rintro url headers ⟨⟩, fun _ _ => hauth, h.deferred, h.checker⟩

theorem shaping_start : Keeps (shaped cfg t) (Shaping cfg t) (Connection.start cfg) := by
  have hnegotiate : cfg.skipNegotiation = false →
      Keeps (shaped cfg t) (Shaping cfg t) (negotiate cfg) := by
    intro hskip
    refine Keeps.bind .get fun _ => Keeps.bind (shaping_block fun s h => ?_) fun _ =>
      Keeps.bind .get fun _ => Keeps.bind (.ofExcept _) fun _ =>
        shaping_modify (fun _ => rfl) fun _ => rfl
    refine ⟨by rintro app ⟨⟩, ?_, by rintro site ⟨⟩, h.deferred, h.checker⟩
    rintro url headers ⟨⟩
    exact ⟨hskip, rfl⟩
  exact Keeps.bind (shaping_refresh _) fun _ =>
    Keeps.bind (Keeps.when fun hskip => hnegotiate (by simpa using hskip)) fun _ =>
      Keeps.bind .get fun _ => Keeps.when fun _ =>
        Keeps.bind (shaping_setState (by simp)) fun _ => shaping_createApp

/-- The greenlet that is killed is there. -/
theorem shaping_killGreenlet : Keeps (shaped cfg t) (Shaping cfg t) killGreenlet := by
  intro s P h hI
  unfold killGreenlet killApp record
  simp only [wp_bind, wp_get]
  cases hgreenlet : s.greenlet with
  | none => exact hI
  | some app =>
      simp only [Option.elim_some, wp_bind, wp_get, setApp, wp_modify]
      have hlt : app < s.apps.length := by
        have hws := hI.base.greenlet.symm.trans hgreenlet
        rw [hI.base.ws, newest] at hws
        split at hws
        · cases hws
        · cases hws
          omega
      have hmono : ∀ other, Killed s other → Killed { s with
          apps := s.apps.modify app fun a => { a with killed := true } } other := by
        rintro other ⟨a, ha, hkilled⟩
        refine ⟨if app = other then { a with killed := true } else a, ?_, ?_⟩
        · show (s.apps.modify app _)[other]? = _
          rw [List.getElem?_modify, ha]
          split_ifs <;> rfl
        · split_ifs
          · rfl
          · exact hkilled
      have hkilled : Killed { s with
          apps := s.apps.modify app fun a => { a with killed := true } } app := by
        refine ⟨{ s.apps[app] with killed := true }, ?_, rfl⟩
        show (s.apps.modify app _)[app]? = _
        rw [List.getElem?_modify_eq, List.getElem?_eq_getElem hlt]
        rfl
      rw [wp_perform]
      constructor
      · refine ⟨⟨?_, hI.base.greenlet, ?_, hI.base.order, ?_, hI.base.state,
          hI.base.connectionAlive, hI.base.policy⟩, ?_⟩
        · rw [hI.base.ws]
          exact (newest_eq (by simp)).symm
        · simpa using hI.base.creations
        · simpa using hI.base.handed
        · intro l hl
          rcases Multiset.mem_cons.mp hl with rfl | hl
          · refine ⟨?_, by rintro url headers ⟨⟩, by rintro site ⟨⟩, hI.head.deferred,
              hI.head.checker⟩
            rintro other ⟨⟩
            exact hkilled
          · exact (hI.tail.at_ l hl).mono hmono
      · exact fun s P r h _ => ShapedInv.move h Placed.ready

theorem shaping_reconnect : Keeps (shaped cfg t) (Shaping cfg t) (reconnect cfg) :=
  keeps_reconnect (keeps_stopLost (shaping_stop _) (shaping_setState (by simp)))
    shaping_killGreenlet (shaping_modify (fun _ => rfl) fun _ => rfl)
    (shaping_modify (fun _ => rfl) fun _ => rfl) shaping_start

theorem shaping_setReconnecting (value : Bool) :
    Keeps (shaped cfg t) (Shaping cfg t) (setReconnecting value) :=
  Keeps.bind keeps_reconnectionHandler fun _ => shaping_setHandler fun _ => rfl

/-- What the policy gives is one of its times. -/
theorem ReconnectionHandler.next_mem_times {handler : ReconnectionHandler} {sleepTime : Int}
    (h : handler.next.2 = .ok sleepTime) : sleepTime ∈ handler.policy.times := by
  rcases handler with ⟨⟨sleepTime', _ | maxAttempts⟩ | intervals, reconnecting, attemptNumber⟩
  · cases h
    exact List.mem_singleton.mpr rfl
  · simp only [ReconnectionHandler.next] at h
    split_ifs at h
    cases h
    exact List.mem_singleton.mpr rfl
  · simp only [ReconnectionHandler.next] at h
    split at h
    · cases h
      exact List.mem_of_getElem? ‹_›
    · cases h

theorem ReconnectionHandler.policy_kept (handler : ReconnectionHandler) :
    handler.next.1.policy = handler.policy := by
  rcases handler with ⟨⟨sleepTime, _ | maxAttempts⟩ | intervals, reconnecting, attemptNumber⟩
  · rfl
  · simp only [ReconnectionHandler.next]
    split_ifs <;> rfl
  · rfl

theorem shaping_nextSleepTime {h : List (Logged State Exc Op Op.Result)} (hI : Shaping cfg t s P) :
    nextSleepTime.wp (shaped cfg t) (fun r s P _ => Shaping cfg t s P ∧
      ∀ sleepTime, r = .ok sleepTime → Scheduled cfg sleepTime) s P h := by
  unfold nextSleepTime reconnectionHandler
  simp only [wp_bind, wp_get]
  cases hhandler : s.reconnectionHandler with
  | none => exact ⟨hI, by rintro sleepTime ⟨⟩⟩
  | some handler =>
      simp only [Option.elim_some, wp_pure, setHandler, record, wp_modify, wp_ofExcept]
      refine ⟨shaping_congr hI ?_ hI.base.state, fun sleepTime hresult => ?_⟩
      · simp [shapeView, hhandler, handler.policy_kept]
      · refine ⟨handler.policy, ?_, ReconnectionHandler.next_mem_times hresult⟩
        rw [← hI.base.policy, hhandler]
        rfl

/-- The next attempt waits for a time of the policy. -/
theorem shaping_deferReconnect (e : Exc) :
    Keeps (shaped cfg t) (Shaping cfg t) (deferReconnect e) := by
  refine Keeps.ite (fun _ => ?_) fun _ => .raise _
  intro s P h hI
  rw [wp_bind]
  refine wp_mono ?_ (shaping_nextSleepTime hI)
  rintro (e | sleepTime) s P h ⟨hI, hscheduled⟩
  · exact hI
  · refine Shaping.fork hI ⟨by rintro app ⟨⟩, by rintro url headers ⟨⟩, by rintro site ⟨⟩, ?_,
      by rintro ⟨⟩⟩
    rintro other ⟨⟩
    exact hscheduled sleepTime rfl

theorem shaping_handleReconnect :
    Keeps (shaped cfg t) (Shaping cfg t) (handleReconnect cfg) :=
  keeps_handleReconnect
    (keeps_reportReconnect (shaping_modify (fun _ => rfl) fun _ => rfl) (shaping_perform rfl))
    (shaping_setReconnecting _) shaping_reconnect shaping_deferReconnect

/-- The message goes to the last websocket. -/
theorem shaping_write {message : Outgoing} {h : List (Logged State Exc Op Op.Result)}
    (hI : Shaping cfg t s P) (hws : s.ws = some app) :
    (WebsocketTransport.write app message).wp (shaped cfg t) (fun _ s P _ => Shaping cfg t s P)
      s P h := by
  have hlast : s.apps.length = app + 1 := by
    rw [hI.base.ws, newest] at hws
    split at hws
    · cases hws
    · cases hws
      assumption
  have hsend : Keeps (shaped cfg t) (Shaping cfg t)
      ((perform (Op.wsSend app message)).tryCatch fun e => do
        setApp app fun a => { a with lost := a.lost || e.isConnectionLost }
        raise e) :=
    Keeps.tryCatch (shaping_perform rfl) fun _ =>
      Keeps.bind (shaping_setApp fun _ => rfl) fun _ => .raise _
  unfold WebsocketTransport.write record
  rw [wp_bind, wp_modify]
  refine hsend _ P h ⟨⟨hI.base.ws, hI.base.greenlet, hI.base.creations, ?_, ?_, hI.base.state,
    hI.base.connectionAlive, hI.base.policy⟩, fun l hl => (hI.at_ l hl).mono fun _ h => h⟩
  · -- what was handed over before went to this websocket or an earlier one
    simp only [List.map_append, List.map_cons, List.map_nil]
    refine List.pairwise_append.mpr ⟨hI.base.order, List.pairwise_singleton _ _, ?_⟩
    intro earlier hearlier other hother
    rw [List.mem_singleton.mp hother]
    have hlt : earlier < s.apps.length := hI.base.handed earlier hearlier
    omega
  · simp only [List.map_append, List.map_cons, List.map_nil, List.mem_append, List.mem_singleton]
    rintro other (hother | rfl)
    · exact hI.base.handed other hother
    · show other < s.apps.length
      omega

theorem shaping_transmit (message : Outgoing) :
    Keeps (shaped cfg t) (Shaping cfg t) (transmit cfg message) := by
  intro s P h hI
  unfold transmit ws
  simp only [wp_bind, wp_get]
  cases hws : s.ws with
  | none => exact hI
  | some app =>
      simp only [Option.elim_some, wp_pure, wp_ofExcept]
      cases cfg.protocol.encode message with
      | error e => exact hI
      | ok raw =>
          have hreset : Keeps (shaped cfg t) (Shaping cfg t)
              (setHandler (·.reset)) := shaping_setHandler fun _ => rfl
          refine wp_mono ?_ (shaping_write hI hws)
          rintro (e | _) s P h hI
          · exact hI
          · exact hreset _ P h (shaping_congr hI rfl hI.base.state)

theorem shaping_send (message : Outgoing) :
    Keeps (shaped cfg t) (Shaping cfg t) (send cfg message) :=
  keeps_send (shaping_transmit message) fun _ =>
    keeps_connectionLost (shaping_modify (fun _ => rfl) fun _ => rfl) (shaping_setState (by simp))
      (shaping_perform rfl) shaping_handleReconnect

/-! ## Websockets -/

/-- The checker is started only for a connection with a reconnection handler. -/
theorem shaping_handshakeDone : Keeps (shaped cfg t) (Shaping cfg t) handshakeDone := by
  refine Keeps.get_bind fun s P h hI => Keeps.when (fun hsome => ?_) s P h hI
  have hconfigured : cfg.reconnection.isSome = true := by
    rw [← hI.base.policy, Option.isSome_map]
    exact hsome
  have hchecker : Keeps (shaped cfg t) (Shaping cfg t) (fork .checkerRun : Hub Unit) :=
    Keeps.fork fun s P hI => hI.fork ⟨by rintro app ⟨⟩, by rintro url headers ⟨⟩,
      by rintro site ⟨⟩, by rintro sleepTime ⟨⟩, fun _ => hconfigured⟩
  exact Keeps.bind (shaping_setHandler fun _ => rfl) fun _ => Keeps.when fun _ =>
    Keeps.bind (shaping_modify (fun _ => rfl) fun _ => rfl) fun _ => hchecker

theorem shaping_onSocketError (site : CloseSite) :
    Keeps (shaped cfg t) (Shaping cfg t) (onSocketError site) :=
  keeps_onSocketError (keeps_reportEnd
    (Keeps.modify fun _ _ h => shaping_congr h rfl (by simp)) (shaping_setState (by simp)))
    (shaping_perform rfl)

theorem shaping_callback {isOver : Bool} {p : Hub Unit}
    (hp : Keeps (shaped cfg t) (Shaping cfg t) p) :
    Keeps (shaped cfg t) (Shaping cfg t) (WebSocketApp.callback app isOver p) :=
  WebSocketApp.keeps_callback hp (shaping_onSocketError _)

theorem shaping_receive (raw : Raw) :
    Keeps (shaped cfg t) (Shaping cfg t) (receive cfg app raw) := by
  have hrecord : ∀ {f : History → History}, (∀ h, (f h).handed = h.handed) →
      (∀ h, (f h).creations = h.creations) → Keeps (shaped cfg t) (Shaping cfg t) (record f) :=
    fun hhanded hcreations => shaping_modify
      (fun s => by simp only [shapeView, hhanded, hcreations]) fun _ => rfl
  have haccept : Keeps (shaped cfg t) (Shaping cfg t) (acceptHandshake app) :=
    Keeps.bind (shaping_modify (fun _ => rfl) fun _ => rfl) fun _ =>
      Keeps.bind (shaping_setState (by simp)) fun _ => Keeps.bind .get fun _ =>
        Keeps.bind (hrecord (fun _ => rfl) fun _ => rfl) fun _ => shaping_handshakeDone
  have hreject : Keeps (shaped cfg t) (Shaping cfg t) rejectHandshake :=
    keeps_rejectHandshake (hrecord (fun _ => rfl) fun _ => rfl) (shaping_onSocketError _)
      (shaping_stop _) (shaping_setState (by simp))
  have hopen : Keeps (shaped cfg t) (Shaping cfg t) reportOpen :=
    keeps_reportOpen (shaping_setState (by simp)) (hrecord (fun _ => rfl) fun _ => rfl)
      (shaping_perform rfl)
  refine Keeps.bind .get fun _ => Keeps.bind (hrecord (fun _ => rfl) fun _ => rfl) fun _ => ?_
  exact Keeps.ite (fun _ => Keeps.bind (keeps_evaluateHandshake fun _ => keeps_judge haccept hreject)
    fun _ => Keeps.bind hopen fun _ => .pure _) fun _ => .ofExcept _

theorem shaping_handle (event : WsEvent) :
    Keeps (shaped cfg t) (Shaping cfg t) (WebSocketApp.handle cfg app event) := by
  have hdispatch : Connection.KeepsDispatch (shaped cfg t) (Shaping cfg t) :=
    { calls := ⟨fun _ => shaping_modify (fun _ => rfl) fun _ => rfl, fun _ _ => shaping_perform rfl⟩
      dispatched := fun _ => shaping_modify (fun _ => rfl) fun _ => rfl
      unregister := fun _ => shaping_modify (fun _ => rfl) fun _ => rfl
      event := fun _ _ => shaping_perform rfl
      error := fun _ => shaping_perform rfl }
  cases event with
  | opened =>
      exact WebSocketApp.keeps_handleOpened (shaping_setApp fun _ => rfl)
        (shaping_callback (shaping_send _))
  | message raw =>
      exact WebSocketApp.keeps_handleMessage (shaping_callback
        (keeps_onMessage (shaping_receive raw) fun _ => Connection.keeps_onMessage
          (fun _ => Connection.keeps_dispatch hdispatch) (shaping_stop _)))
  | failed e => exact Keeps.bind (shaping_setApp fun _ => rfl) fun _ => .raise _
  | closed => exact Keeps.bind (shaping_setApp fun _ => rfl) fun _ => .pure _

theorem shaping_runForever :
    Keeps (shaped cfg t) (Shaping cfg t) (WebSocketApp.runForever cfg app) := by
  have hround : Keeps (shaped cfg t) (Shaping cfg t) (WebSocketApp.round cfg app) :=
    Keeps.tryCatch (Keeps.bind (shaping_perform rfl) shaping_handle) fun _ =>
      Keeps.ite (fun _ => Keeps.bind (shaping_callback (shaping_onSocketError _)) fun _ => .pure _)
        fun _ => .raise _
  have hclosed : Keeps (shaped cfg t) (Shaping cfg t) (onClosed app) :=
    keeps_onClosed (keeps_reportEnd (Keeps.modify fun _ _ h => shaping_congr h rfl (by simp))
      (shaping_setState (by simp))) (shaping_perform rfl)
  exact WebSocketApp.keeps_runForever (shaping_setApp fun _ => rfl) (shaping_setApp fun _ => rfl)
    hround (WebSocketApp.keeps_teardown (shaping_setApp fun _ => rfl) (shaping_callback hclosed)
      (shaping_setApp fun _ => rfl))

/-! ## Runs -/

theorem shaping_body (t : Activity) : Keeps (shaped cfg t) (Shaping cfg t) (Hub.body cfg t) := by
  have hplain : ∀ {f : State → State}, (∀ s, shapeView (f s) = shapeView s) →
      (∀ s, (f s).state = s.state) → Keeps (shaped cfg t) (Shaping cfg t) (Hub.once (modify f)) :=
    fun hf hstate => keeps_once (shaping_modify hf hstate)
  have hregister : ∀ handler, Keeps (shaped cfg t) (Shaping cfg t) (Connection.register handler) :=
    fun _ => Connection.keeps_register (shaping_modify (fun _ => rfl) fun _ => rfl)
      (shaping_modify (fun _ => rfl) fun _ => rfl)
  have hsubject : Subject.KeepsSubject (shaped cfg t) (Shaping cfg t) cfg :=
    { acquire := fun _ => shaping_perform rfl
      set := fun _ _ => shaping_modify (fun _ => rfl) fun _ => rfl
      turns := fun _ => shaping_modify (fun _ => rfl) fun _ => rfl
      streamed := fun _ => shaping_modify (fun _ => rfl) fun _ => rfl
      send := fun _ _ => shaping_send _ }
  cases t with
  | start =>
      exact keeps_once (Keeps.bind (shaping_modify (fun _ => rfl) fun _ => rfl)
        fun _ => shaping_start)
  | stop =>
      exact keeps_once (Keeps.finally_ (shaping_stop _) (shaping_modify (fun _ => rfl) fun _ => rfl))
  | send method arguments onInvocation invocationId uuid =>
      exact keeps_once (Connection.keeps_send (shaping_modify (fun _ => rfl) fun _ => rfl)
        (shaping_refresh _)
        (fun _ _ => Connection.keeps_sendList hregister fun _ _ => shaping_send _)
        fun _ _ => Keeps.bind (hsubject.set _ _) fun _ => hsubject.start)
  | stream event eventParams uuid =>
      exact keeps_once (Connection.keeps_stream (shaping_modify (fun _ => rfl) fun _ => rfl)
        (shaping_modify (fun _ => rfl) fun _ => rfl) hregister fun _ _ => shaping_send _)
  | on event callback => exact hplain (fun _ => rfl) fun _ => rfl
  | onOpen registered => exact hplain (fun _ => rfl) fun _ => rfl
  | onClose registered => exact hplain (fun _ => rfl) fun _ => rfl
  | onReconnect registered => exact hplain (fun _ => rfl) fun _ => rfl
  | onError registered => exact hplain (fun _ => rfl) fun _ => rfl
  | subscribe object callbacks =>
      exact keeps_once (StreamHandler.keeps_subscribeObject
        fun _ => shaping_modify (fun _ => rfl) fun _ => rfl)
  | newSubject uuid => exact hplain (fun _ => rfl) fun _ => rfl
  | next subject item => exact keeps_once hsubject.next
  | complete subject => exact keeps_once hsubject.complete
  | runForever app => exact shaping_runForever
  | checkerRun => exact ConnectionStateChecker.keeps_run (shaping_perform rfl) (shaping_send _)
  | deferredReconnect sleepTime =>
      refine keeps_once (Keeps.tryCatch (Keeps.bind (shaping_perform rfl) fun _ =>
        Keeps.bind .get fun _ => Keeps.when fun _ => shaping_send _) fun _ =>
          Keeps.ite (fun _ => Keeps.bind (shaping_setReconnecting _) fun _ => ?_) fun _ => .raise _)
      exact Keeps.modify fun s P h => shaping_congr h
        (by simp only [shapeView, h.base.connectionAlive]) h.base.state
  | clock seconds => exact hplain (fun _ => rfl) fun _ => rfl

theorem shaped_proof : Proof (hub cfg) .any (ShapedInv cfg) fun _ _ _ _ => True := by
  have henter : KeepsEntering .any (ShapedInv cfg) :=
    { inv := fun _ _ _ h => ⟨h.base.congr rfl h.base.state,
        fun l hl => (h.at_ l hl).mono fun _ h => h⟩
      start := fun _ _ _ _ h => h
      resume := fun _ _ _ _ _ _ h => h }
  apply Hub.proof henter
  · refine ⟨⟨rfl, rfl, rfl, by simp [State.new, History.new], by simp [State.new, History.new],
      by simp [State.new], rfl, ?_⟩, by simp⟩
    show (cfg.reconnection.map ReconnectionHandler.new).map (·.policy) = cfg.reconnection
    cases cfg.reconnection <;> rfl
  · rintro s P t h harrives -
    refine h.cons (placed_ready ?_ ?_)
    · rintro sleepTime rfl
      rcases harrives with hfork | ⟨op, hcall⟩
      · cases hfork
      · simp [hub, Hub.isPublic] at hcall
    · rintro rfl
      rcases harrives with hfork | ⟨op, hcall⟩
      · cases hfork
      · simp [hub, Hub.isPublic] at hcall
  · exact fun s P t h _ => ends_of_ready (fun _ _ h => h.tail) (shaping_body t s P [] h)

theorem shaped_reach {c : Cond State Exc Op Op.Result Activity}
    {w : World State Exc Op Op.Result Activity} (h : (hub cfg).Reach c w) :
    ShapedInv cfg w.shared w.labels :=
  (shaped_proof.sound (h.mono c.implies_any)).holds

/-- In every run a call is pending only where the connection is configured for it: a negotiate
request goes to the hub, a greenlet is killed whose websocket is marked, and a deferred reconnect
sleeps for a time of the policy. -/
theorem pending_reach {w : World State Exc Op Op.Result Activity} (h : (hub cfg).Reach .any w) :
    ∀ l ∈ w.labels, Placed cfg w.shared l :=
  (shaped_reach h).at_

/-- A connection that asks for a token, and has one time to sleep. -/
def Config.asking : Config :=
  { Config.direct (some (.interval [3])) with auth := true }

/-- A run in which the `auth_function` raises in a reconnect, and the next one is deferred. -/
theorem pending_deferred :
    ∃ w, (hub .asking).Reach .any w ∧
      .blocked (.deferredReconnect 3) (.sleep 3) ∈ w.labels ∧ Scheduled .asking 3 := by
  have h := (hub .asking).reach_after [.fork .start, .start 0, .answer 0 (.token none), .start 1,
    .answer 1 (.happened .opened), .answer 1 .done, .fork (.stream "Counter" .none "1"), .start 2,
    .answer 2 (.raised .connectionClosed), .answer 2 .done, .answer 2 (.raised .osError),
    .start 3] .start rfl
  have hrun : ∃ w, (hub .asking).Reach .any w ∧
      .blocked (.deferredReconnect 3) (.sleep 3) ∈ w.labels := by
    refine ⟨_, h, ?_⟩
    -- it sleeps in the fourth greenlet
    iterate 3 apply Multiset.mem_add.mpr (.inr ?_)
    exact Multiset.mem_add.mpr (.inl (Multiset.mem_singleton.mpr rfl))
  obtain ⟨w, hreach, hsleeps⟩ := hrun
  exact ⟨w, hreach, hsleeps, (pending_reach hreach _ hsleeps).deferred 3 rfl⟩

end GeventSignalR
