import GeventSignalR.Hub.Ownership

/-!
# The first message of a websocket

`handshake_received` belongs to the transport and not to a websocket.  `stop`, `send`
and `handle_reconnect` clear it; `on_close` and `on_socket_error` do not.

* `Cleared` are the steps that leave flag and state to the websocket that connects.
* `Fresh` is a websocket whose first message may still come.
* `Awaiting` is the invariant, `Waiting` and `Mine` what it says to the greenlet of a
  websocket before and after its first message.
-/

namespace GeventSignalR

open Coop Coop.Prog

/-- The positions inside `start`. -/
def isStarting : Label Op Activity → Bool
  | .blocked _ (.auth .start) => true
  | .blocked _ (.post ..) => true
  | _ => false

/-- The `close()` of a websocket. -/
def isClose : Op → Bool
  | .wsClose .. => true
  | _ => false

/-- The user calls `start()` only when it does nothing or finds `handshake_received`
cleared, and while the state is connecting no write fails and no `close()` ends. -/
def Cleared (cfg : Config) : Cond State Exc Op Op.Result Activity where
  fork := fun _ _ _ => True
  start := fun s _ t => t.isStart = true → StartsNothing cfg s ∨ s.handshakeReceived = false
  resume := fun s _ _ op r => Hub.isLost op r = true ∨ isClose op = true → s.state ≠ .connecting

instance (cfg : Config) : System.Decides (Cleared cfg) where
  fork := fun _ _ _ => isTrue trivial
  start := fun _ _ _ => inferInstanceAs (Decidable (_ → _))
  resume := fun _ _ _ _ _ => inferInstanceAs (Decidable (_ → _))

/-- The greenlet of the websocket goes on, and no message has arrived on it. -/
def Fresh (s : State) (app : Nat) : Prop :=
  (∃ a, s.apps[app]? = some a ∧ a.ended = false ∧ a.silent = false) ∧
    ∀ r ∈ s.history.received, r.1 ≠ app

/-- The first message of a websocket: `handshake_received` and the state when it arrived. -/
def firstReceived (s : State) (app : Nat) : Option (Nat × Bool × ConnectionState) :=
  s.history.received.find? fun r => r.1 == app

/-- While a websocket is fresh, the transport waits for its handshake. -/
structure AwaitingState (s : State) : Prop where
  fresh : ∀ app, Fresh s app → s.state = .connecting ∧ s.handshakeReceived = false
  first : ∀ app r, firstReceived s app = some r → r.2 = (false, .connecting)
  created : ∀ c ∈ s.history.creations, c.handshakeReceived = false

/-- A greenlet that waits neither for its websocket nor to write has seen a message, or the
end. -/
def isBusy : Label Op Activity → Bool
  | .ready _ => false
  | .blocked _ (.event _) => false
  | .blocked _ (.wsSend ..) => false
  | .blocked _ _ => true

/-- What a position says: inside `start` the flag is cleared, and a busy greenlet is not
the one of a fresh websocket. -/
structure AwaitingAt (s : State) (l : Label Op Activity) : Prop where
  starting : isStarting l = true → s.handshakeReceived = false
  known : ∀ app, isOf app l = true → app < s.apps.length
  busy : ∀ app, isOf app l = true → isBusy l = true → ¬Fresh s app

/-- The invariant. -/
def Awaiting : HubInv :=
  Pointwise AwaitingState AwaitingAt

/-- The invariant while a thread runs. -/
abbrev Steady (t : Activity) : HubInv :=
  fun s P => Awaiting s (.ready t ::ₘ P)

/-- The same, while no websocket is fresh. -/
structure Settled (t : Activity) (s : State) (P : Multiset (Label Op Activity)) : Prop where
  steady : Steady t s P
  notFresh : ∀ app, ¬Fresh s app

/-- The greenlet of a websocket is the only one that is unfinished, and nothing is being
started. -/
structure Sole (app : Nat) (s : State) (P : Multiset (Label Op Activity)) : Prop where
  alive : ∃ a, s.apps[app]? = some a ∧ a.ended = false
  sole : ∀ other a, s.apps[other]? = some a → a.ended = false → other = app
  ws : s.ws = some app
  starting : ∀ l ∈ P, isStarting l = false

/-- What the greenlet of a websocket finds before its first message. -/
structure Waiting (app : Nat) (s : State) (P : Multiset (Label Op Activity)) : Prop where
  steady : Steady (.runForever app) s P
  sole : Sole app s P

/-- What it finds from its first message on, or from its end on. -/
structure Mine (app : Nat) (s : State) (P : Multiset (Label Op Activity)) : Prop
    extends Waiting app s P where
  notFresh : ¬Fresh s app

variable {cfg : Config} {t : Activity}

/-- What the earlier results say about the states of a run. -/
abbrev Known : HubInv :=
  fun s P => Single s P ∧ Owned s P

/-- The steps of the runs in which every websocket does its own handshake. -/
abbrev OwnHandshake (cfg : Config) : Cond State Exc Op Op.Result Activity :=
  (Orderly cfg).and (Cleared cfg)

/-- What the proof assumes. -/
abbrev awaiting (cfg : Config) (t : Activity) : HubRely :=
  (hub cfg).rely ((OwnHandshake cfg).and (.within Known)) Awaiting t

/-! ## States that agree -/

/-- What the invariant reads of the state besides `state` and `handshake_received`. -/
def arrivals (s : State) : List App × List (Nat × Bool × ConnectionState) × List Creation :=
  (s.apps.map offApp, s.history.received, s.history.creations)

theorem arrivals_modify {s : State} {app : Nat} {f : App → App}
    (hf : ∀ a, offApp (f a) = offApp a) :
    arrivals { s with apps := s.apps.modify app f } = arrivals s := by
  simp only [arrivals, map_modify hf]

theorem ended_of_arrivals {s s' : State} (hs : arrivals s' = arrivals s) :
    s'.apps.map (·.ended) = s.apps.map (·.ended) := by
  have hmap := congrArg (fun v => v.1.map App.ended) hs
  simp only [arrivals, List.map_map] at hmap
  exact hmap

theorem exists_app_of_map {apps apps' : List App} (h : apps'.map offApp = apps.map offApp)
    {app : Nat} {a' : App} (ha : apps'[app]? = some a') :
    ∃ a, apps[app]? = some a ∧ a.ended = a'.ended ∧ a.silent = a'.silent := by
  have hget := congrArg (·[app]?) h
  simp only [List.getElem?_map, ha, Option.map_some] at hget
  obtain ⟨a, hsome, hoff⟩ := Option.map_eq_some_iff.mp hget.symm
  exact ⟨a, hsome, (congrArg App.ended hoff :), (congrArg App.silent hoff :)⟩

theorem fresh_congr {s s' : State} (hs : arrivals s' = arrivals s) {app : Nat}
    (h : Fresh s' app) : Fresh s app := by
  simp only [arrivals, Prod.mk.injEq] at hs
  obtain ⟨⟨a', ha', hended, hsilent⟩, hreceived⟩ := h
  obtain ⟨a, ha, hended', hsilent'⟩ := exists_app_of_map hs.1 ha'
  exact ⟨⟨a, ha, hended'.trans hended, hsilent'.trans hsilent⟩, hs.2.1 ▸ hreceived⟩

/-- A change that makes no websocket fresh again leaves the positions as they are. -/
theorem awaiting_of {s s' : State} {P : Multiset (Label Op Activity)} (h : Awaiting s P)
    (hbase : AwaitingState s')
    (hstarting : ∀ l ∈ P, isStarting l = true → s'.handshakeReceived = false)
    (hlength : s.apps.length ≤ s'.apps.length)
    (hfresh : ∀ app < s.apps.length, Fresh s' app → Fresh s app) : Awaiting s' P := by
  refine ⟨hbase, fun l hl => ?_⟩
  have hat := h.at_ l hl
  constructor
  · exact hstarting l hl
  · intro app hof
    exact lt_of_lt_of_le (hat.known app hof) hlength
  · intro app hof hbusy hagain
    exact hat.busy app hof hbusy (hfresh app (hat.known app hof) hagain)

/-- The base of the invariant, for other values of `state` and `handshake_received`. -/
theorem awaitingState_congr {s s' : State} (h : AwaitingState s) (hs : arrivals s' = arrivals s)
    (hfresh : ∀ app, Fresh s app → s'.state = .connecting ∧ s'.handshakeReceived = false) :
    AwaitingState s' := by
  have hrecords := hs
  simp only [arrivals, Prod.mk.injEq] at hrecords
  constructor
  · exact fun app hagain => hfresh app (fresh_congr hs hagain)
  · intro app r hr
    refine h.first app r ?_
    unfold firstReceived at hr ⊢
    rwa [← hrecords.2.1]
  · rw [hrecords.2.2]
    exact h.created

theorem length_of_arrivals {s s' : State} (hs : arrivals s' = arrivals s) :
    s.apps.length = s'.apps.length := by
  have happs : s'.apps.map offApp = s.apps.map offApp := congrArg Prod.fst hs
  simpa using (congrArg List.length happs).symm

/-- The invariant in a state that agrees on everything it reads. -/
theorem awaiting_congr {s s' : State} {P : Multiset (Label Op Activity)} (h : Awaiting s P)
    (hs : arrivals s' = arrivals s) (hstate : s'.state = s.state)
    (hflag : s'.handshakeReceived = s.handshakeReceived) : Awaiting s' P := by
  refine awaiting_of h (awaitingState_congr h.base hs ?_) ?_ (length_of_arrivals hs).le ?_
  · rw [hstate, hflag]
    exact h.base.fresh
  · rw [hflag]
    exact fun l hl => (h.at_ l hl).starting
  · exact fun app _ => fresh_congr hs

/-- While no websocket is fresh, the state may change, and the flag may be cleared. -/
theorem settled_congr {s s' : State} {P : Multiset (Label Op Activity)} (h : Settled t s P)
    (hs : arrivals s' = arrivals s)
    (hflag : s'.handshakeReceived = true → s.handshakeReceived = true) : Settled t s' P := by
  refine ⟨?_, fun app hagain => h.notFresh app (fresh_congr hs hagain)⟩
  refine awaiting_of h.steady (awaitingState_congr h.steady.base hs ?_) ?_
    (length_of_arrivals hs).le ?_
  · exact fun app hfresh => absurd hfresh (h.notFresh app)
  · intro l hl hstarting
    have hcleared := (h.steady.at_ l hl).starting hstarting
    by_contra hset
    rw [hflag (by simpa using hset)] at hcleared
    cases hcleared
  · exact fun app _ => fresh_congr hs

/-- No websocket but the own one can be fresh. -/
theorem Mine.none {app : Nat} {s : State} {P : Multiset (Label Op Activity)} (h : Mine app s P)
    (other : Nat) : ¬Fresh s other := by
  intro hfresh
  obtain ⟨⟨a, ha, hended, -⟩, -⟩ := id hfresh
  rw [h.sole.sole other a ha hended] at hfresh
  exact h.notFresh hfresh

theorem sole_congr {app : Nat} {s s' : State} {P : Multiset (Label Op Activity)} (h : Sole app s P)
    (hs : s'.apps.map (·.ended) = s.apps.map (·.ended)) (hws : s'.ws = s.ws) : Sole app s' P := by
  constructor
  · obtain ⟨a, ha, hended⟩ := h.alive
    obtain ⟨a', ha', hended'⟩ := ended_of_map hs.symm ha
    exact ⟨a', ha', hended'.trans hended⟩
  · intro other a' ha' hended
    obtain ⟨a, ha, hended'⟩ := ended_of_map hs ha'
    exact h.sole other a ha (hended'.trans hended)
  · rw [hws]
    exact h.ws
  · exact h.starting

theorem waiting_congr {app : Nat} {s s' : State} {P : Multiset (Label Op Activity)}
    (h : Waiting app s P) (hs : arrivals s' = arrivals s) (hws : s'.ws = s.ws)
    (hstate : s'.state = s.state) (hflag : s'.handshakeReceived = s.handshakeReceived) :
    Waiting app s' P :=
  ⟨awaiting_congr h.steady hs hstate hflag, sole_congr h.sole (ended_of_arrivals hs) hws⟩

/-- After the first message, the greenlet may change the state and the flag. -/
theorem mine_congr {app : Nat} {s s' : State} {P : Multiset (Label Op Activity)}
    (h : Mine app s P) (hs : arrivals s' = arrivals s) (hws : s'.ws = s.ws) : Mine app s' P := by
  have hstarting : ∀ l ∈ Label.ready (.runForever app) ::ₘ P, isStarting l = false := by
    intro l hl
    rcases Multiset.mem_cons.mp hl with rfl | hl
    · rfl
    · exact h.sole.starting l hl
  refine ⟨⟨?_, sole_congr h.sole (ended_of_arrivals hs) hws⟩, fun hagain =>
    h.notFresh (fresh_congr hs hagain)⟩
  refine awaiting_of h.steady (awaitingState_congr h.steady.base hs ?_) ?_
    (length_of_arrivals hs).le ?_
  · exact fun other hfresh => absurd hfresh (h.none other)
  · intro l hl hstart
    rw [hstarting l hl] at hstart
    cases hstart
  · exact fun other _ => fresh_congr hs

/-! ## Threads that are not the greenlet of a websocket -/

/-- A thread that blocks says what its position says. -/
theorem awaiting_block {op : Op} {s : State} {P : Multiset (Label Op Activity)}
    (h : Steady t s P) (hstarting : isStarting (.blocked t op) = true → s.handshakeReceived = false)
    (hbusy : ∀ app, t = .runForever app → isBusy (.blocked t op) = true → ¬Fresh s app) :
    Awaiting s (.blocked t op ::ₘ P) := by
  refine h.tail.cons ⟨hstarting, ?_, ?_⟩
  · exact h.head.known
  · intro app hof
    refine hbusy app ?_
    by_contra hne
    unfold isOf at hof
    split at hof
    · rename_i other hthread
      exact hne (hthread.trans (by rw [eq_of_beq hof]))
    · cases hof

/-- A thread that goes on says less than when it was blocked. -/
theorem steady_of_blocked {op : Op} {s : State} {P : Multiset (Label Op Activity)}
    (h : Awaiting s (.blocked t op ::ₘ P)) : Steady t s P := by
  refine h.tail.cons ⟨?_, h.head.known, ?_⟩
  · intro hstarting
    cases hstarting
  · intro app _ hbusy
    cases hbusy

theorem steady_perform (hrun : ∀ app, t ≠ .runForever app) {op : Op}
    (hop : isStarting (.blocked t op) = false) : Keeps (awaiting cfg t) (Steady t) (perform op) := by
  refine Keeps.perform (fun s P h => ?_) fun _ _ _ h _ => steady_of_blocked h
  refine awaiting_block h ?_ fun app happ => absurd happ (hrun app)
  intro hstarting
  rw [hop] at hstarting
  cases hstarting

theorem steady_modify {f : State → State} (hf : ∀ s, arrivals (f s) = arrivals s)
    (hstate : ∀ s, (f s).state = s.state)
    (hflag : ∀ s, (f s).handshakeReceived = s.handshakeReceived) :
    Keeps (awaiting cfg t) (Steady t) (modify f : Hub Unit) :=
  Keeps.modify fun s _ h => awaiting_congr h (hf s) (hstate s) (hflag s)

/-- A thread that is ready says nothing, unless it is the greenlet of a websocket. -/
theorem awaiting_ready {s : State} {P : Multiset (Label Op Activity)} (h : Awaiting s P)
    {t' : Activity} (ht' : ∀ app, t' ≠ .runForever app) : Awaiting s (.ready t' ::ₘ P) := by
  refine h.cons ⟨?_, ?_, ?_⟩
  · intro hstarting
    cases hstarting
  · intro app hof
    rw [isOf_eq_false (l := .ready t') ht' app] at hof
    cases hof
  · intro app _ hbusy
    cases hbusy

theorem steady_fork {t' : Activity} (ht' : ∀ app, t' ≠ .runForever app) :
    Keeps (awaiting cfg t) (Steady t) (fork t' : Hub Unit) := by
  refine Keeps.fork fun s P h => ?_
  show Awaiting s (.ready t ::ₘ .ready t' ::ₘ P)
  rw [Multiset.cons_swap]
  exact awaiting_ready h ht'

theorem steady_setHandler (f : ReconnectionHandler → ReconnectionHandler) :
    Keeps (awaiting cfg t) (Steady t) (WebsocketTransport.setHandler f) :=
  steady_modify (fun _ => rfl) (fun _ => rfl) fun _ => rfl

/-- Unless the state is connecting, no websocket is fresh. -/
theorem settled_of_state {s : State} {P : Multiset (Label Op Activity)} (h : Steady t s P)
    (hstate : s.state ≠ .connecting) : Settled t s P :=
  ⟨h, fun app hfresh => hstate (h.base.fresh app hfresh).1⟩

theorem settled_modify {f : State → State} (hf : ∀ s, arrivals (f s) = arrivals s)
    (hflag : ∀ s, (f s).handshakeReceived = true → s.handshakeReceived = true) :
    Keeps (awaiting cfg t) (Settled t) (modify f : Hub Unit) :=
  Keeps.modify fun s _ h => settled_congr h (hf s) (hflag s)

/-- When `close()` ends, no websocket is fresh. -/
theorem settled_close (hrun : ∀ app, t ≠ .runForever app) (app : Nat) (site : StopSite) :
    Keeps (awaiting cfg t) (Settled t) (perform (Op.wsClose app site)) := by
  refine Keeps.perform (fun s P h => ?_) fun s P r h hres => ?_
  · refine awaiting_block h.steady ?_ fun app happ => absurd happ (hrun app)
    intro hstarting
    cases hstarting
  · exact settled_of_state (steady_of_blocked h) (hres.1.1.2 (.inr rfl))

/-- `stop` acts on a connected transport, where no websocket is fresh. -/
theorem steady_stop (hrun : ∀ app, t ≠ .runForever app) {site : StopSite} {s : State}
    {P : Multiset (Label Op Activity)} {h : List (Logged State Exc Op Op.Result)}
    (hsteady : Steady t s P) :
    (WebsocketTransport.stop site).wp (awaiting cfg t)
      (fun r s P _ => Steady t s P ∧ ∀ e, r = .error e → Settled t s P) s P h := by
  have hactive : Keeps (awaiting cfg t) (Settled t) (do
      ConnectionStateChecker.stop
      WebsocketTransport.closeWs site
      WebsocketTransport.setState .disconnected
      WebsocketTransport.setHandshakeReceived false) := by
    have hclose : Keeps (awaiting cfg t) (Settled t) (WebsocketTransport.closeWs site) :=
      WebsocketTransport.keeps_closeWs
        (fun _ => settled_modify (fun _ => arrivals_modify fun _ => rfl) fun _ => id)
        (fun app => settled_close hrun app site)
        fun _ => settled_modify (fun _ => arrivals_modify fun _ => rfl) fun _ => id
    exact Keeps.bind (settled_modify (fun _ => rfl) fun _ => id) fun _ =>
      Keeps.bind hclose fun _ => Keeps.bind (settled_modify (fun _ => rfl) fun _ => id) fun _ =>
        settled_modify (fun _ => rfl) fun _ hflag => by cases hflag
  refine (wp_bind _ _).mpr ?_
  change (Prog.when _ _).wp _ _ _ _ _
  rw [wp_when]
  split_ifs with hstate
  · have hsettled : Settled t s P :=
      settled_of_state hsteady (by simp [of_decide_eq_true hstate])
    exact wp_mono (fun _ _ _ _ h => ⟨h.steady, fun _ _ => h⟩) (hactive s P h hsettled)
  · exact ⟨hsteady, by simp⟩

theorem steady_stopLost (hrun : ∀ app, t ≠ .runForever app) :
    Keeps (awaiting cfg t) (Steady t) WebsocketTransport.stopLost := by
  intro s P h hsteady
  unfold WebsocketTransport.stopLost
  rw [wp_tryCatch]
  refine wp_mono ?_ (steady_stop hrun hsteady)
  rintro (e | _) s P h ⟨hsteady, hsettled⟩
  · show Prog.wp _ (if e = .connectionClosed then _ else _) _ _ _ _
    split_ifs
    · have hstate : Keeps (awaiting cfg t) (Settled t)
          (WebsocketTransport.setState .disconnected) := settled_modify (fun _ => rfl) fun _ => id
      exact wp_mono (fun _ _ _ _ h => h.steady) (hstate s P h (hsettled e rfl))
    · exact hsteady
  · exact hsteady

/-! ## Restarts -/

/-- Inside a restart the flag is cleared. -/
structure Clear (t : Activity) (s : State) (P : Multiset (Label Op Activity)) : Prop where
  steady : Steady t s P
  flag : s.handshakeReceived = false

/-- The flag may always be cleared. -/
theorem clear_setHandshakeReceived :
    Leads (awaiting cfg t) (Steady t) (Clear t) (WebsocketTransport.setHandshakeReceived false) := by
  intro s P h hsteady
  refine ⟨?_, rfl⟩
  refine awaiting_of hsteady (awaitingState_congr hsteady.base rfl ?_) (fun _ _ _ => rfl) le_rfl ?_
  · exact fun app hfresh => ⟨(hsteady.base.fresh app hfresh).1, rfl⟩
  · exact fun app _ => fresh_congr rfl

theorem clear_perform (hrun : ∀ app, t ≠ .runForever app) {op : Op}
    (hop : isStarting (.blocked t op) = true) : Keeps (awaiting cfg t) (Clear t) (perform op) := by
  refine Keeps.perform (fun s P h => ?_) fun _ _ _ h _ => ⟨steady_of_blocked h, ?_⟩
  · exact awaiting_block h.steady (fun _ => h.flag) fun app happ => absurd happ (hrun app)
  · exact h.head.starting hop

theorem clear_modify {f : State → State} (hf : ∀ s, arrivals (f s) = arrivals s)
    (hstate : ∀ s, (f s).state = s.state)
    (hflag : ∀ s, (f s).handshakeReceived = s.handshakeReceived) :
    Keeps (awaiting cfg t) (Clear t) (modify f : Hub Unit) :=
  Keeps.modify fun s _ h =>
    ⟨awaiting_congr h.steady (hf s) (hstate s) (hflag s), (hflag s).trans h.flag⟩

/-- The new websocket waits for its handshake. -/
theorem steady_createApp {s : State} {P : Multiset (Label Op Activity)}
    {h : List (Logged State Exc Op Op.Result)} (hclear : Clear t s P) :
    (do
      WebsocketTransport.setState .connecting
      WebsocketTransport.createApp).wp (awaiting cfg t) (fun _ s P _ => Steady t s P) s P h := by
  unfold WebsocketTransport.createApp record
  simp only [WebsocketTransport.setState_connecting, wp_bind, wp_get, wp_modify, wp_fork]
  have hold : ∀ app < s.apps.length, ∀ s' : State,
      s'.apps = s.apps ++
        [WebsocketTransport.newApp s.url s.oldHeaders.length (!s.history.current.isStart)] →
      s'.history.received = s.history.received → Fresh s' app → Fresh s app := by
    rintro app happ s' happs hreceived ⟨⟨a, ha, hends⟩, hnone⟩
    rw [happs, List.getElem?_append_left happ] at ha
    exact ⟨⟨a, ha, hends⟩, hreceived ▸ hnone⟩
  show Awaiting _ (.ready t ::ₘ .ready _ ::ₘ P)
  rw [Multiset.cons_swap]
  refine Pointwise.cons (awaiting_of hclear.steady ⟨?_, ?_, ?_⟩ ?_ ?_ ?_) ⟨?_, ?_, ?_⟩
  · exact fun app _ => ⟨rfl, hclear.flag⟩
  · exact hclear.steady.base.first
  · intro c hc
    rcases List.mem_append.mp hc with hc | hc
    · exact hclear.steady.base.created c hc
    · rw [List.mem_singleton.mp hc]
      exact hclear.flag
  · exact fun _ _ _ => hclear.flag
  · simp
  · exact fun app happ => hold app happ _ rfl rfl
  · intro hstarting
    cases hstarting
  · intro app hof
    have happ : s.apps.length = app := by simpa [isOf, Label.thread] using hof
    simp [← happ]
  · intro app _ hbusy
    cases hbusy

theorem steady_start (hrun : ∀ app, t ≠ .runForever app) :
    Leads (awaiting cfg t) (Clear t) (Steady t) (Connection.start cfg) := by
  have hsteady : ∀ s P, Clear t s P → Steady t s P := fun _ _ h => h.steady
  have hrefresh : Keeps (awaiting cfg t) (Clear t) (Connection.refreshTokenMaybe cfg .start) :=
    Connection.keeps_refreshTokenMaybe (clear_perform hrun rfl)
      fun _ => clear_modify (fun _ => rfl) (fun _ => rfl) fun _ => rfl
  have hnegotiate : Keeps (awaiting cfg t) (Clear t) (WebsocketTransport.negotiate cfg) :=
    WebsocketTransport.keeps_negotiate (fun _ _ => clear_perform hrun rfl)
      fun _ _ => clear_modify (fun _ => rfl) (fun _ => rfl) fun _ => rfl
  exact Leads.bind hsteady hrefresh fun _ => Leads.bind hsteady (Keeps.when fun _ => hnegotiate)
    fun _ => Leads.bind hsteady .get fun _ => Leads.when hsteady fun _ _ _ _ h => steady_createApp h

theorem steady_reconnect (hrun : ∀ app, t ≠ .runForever app) :
    Keeps (awaiting cfg t) (Steady t) (WebsocketTransport.reconnect cfg) := by
  have hkill : Keeps (awaiting cfg t) (Steady t) WebsocketTransport.killGreenlet :=
    WebsocketTransport.keeps_killGreenlet
      (fun _ => WebsocketTransport.keeps_killApp
        (fun _ => steady_modify (fun _ => rfl) (fun _ => rfl) fun _ => rfl)
        (steady_modify (fun _ => arrivals_modify fun _ => rfl) (fun _ => rfl) fun _ => rfl))
      fun _ => steady_perform hrun rfl
  have hrestart : Keeps (awaiting cfg t) (Clear t)
      (record fun h => { h with restarts := h.restarts ++ [h.accepted.length] }) :=
    clear_modify (fun _ => rfl) (fun _ => rfl) fun _ => rfl
  refine Keeps.bind (steady_stopLost hrun) fun _ => Keeps.bind hkill fun _ => ?_
  intro s P h hsteady
  rw [wp_bind]
  refine wp_mono ?_ (clear_setHandshakeReceived s P h hsteady)
  rintro (e | _) s P h hclear
  · exact hclear.steady
  · exact Leads.bind (fun _ _ h => h.steady) hrestart (fun _ => steady_start hrun) s P h hclear

theorem steady_handleReconnect (hrun : ∀ app, t ≠ .runForever app) :
    Keeps (awaiting cfg t) (Steady t) (WebsocketTransport.handleReconnect cfg) :=
  WebsocketTransport.keeps_handleReconnect
    (WebsocketTransport.keeps_reportReconnect
      (steady_modify (fun _ => rfl) (fun _ => rfl) fun _ => rfl) (steady_perform hrun rfl))
    (WebsocketTransport.keeps_setReconnecting steady_setHandler) (steady_reconnect hrun)
    fun _ => WebsocketTransport.keeps_deferReconnect
      (WebsocketTransport.keeps_nextSleepTime steady_setHandler
        fun _ => steady_modify (fun _ => rfl) (fun _ => rfl) fun _ => rfl)
      fun _ => steady_fork (by simp)

/-- A write is refused while no websocket is fresh. -/
theorem steady_connectionLost (hrun : ∀ app, t ≠ .runForever app) (e : Exc) :
    Leads (awaiting cfg t) (Settled t) (Steady t) (WebsocketTransport.connectionLost cfg e) := by
  have hsteady : ∀ s P, Settled t s P → Steady t s P := fun _ _ h => h.steady
  refine Leads.bind hsteady (settled_modify (fun _ => rfl) fun _ hflag => by cases hflag) fun _ =>
    Leads.bind hsteady (settled_modify (fun _ => rfl) fun _ => id) fun _ =>
      Leads.bind hsteady .get fun _ => Leads.ite (fun _ => ?_) fun _ => ?_
  · exact Leads.to_keeps hsteady
      (WebsocketTransport.keeps_reportLost (steady_perform hrun rfl))
  · exact Leads.to_keeps hsteady (steady_handleReconnect hrun)

theorem steady_send (hrun : ∀ app, t ≠ .runForever app) (message : Outgoing) :
    Keeps (awaiting cfg t) (Steady t) (WebsocketTransport.send cfg message) :=
  WebsocketTransport.keeps_send_of_lost
    (fun _ => steady_modify (fun _ => rfl) (fun _ => rfl) fun _ => rfl)
    (fun _ => steady_perform hrun rfl)
    (fun _ _ => steady_modify (fun _ => arrivals_modify fun _ => rfl) (fun _ => rfl) fun _ => rfl)
    (fun _ _ _ _ h hres he => settled_congr
      (settled_of_state (steady_of_blocked h) (hres.1.1.2 (.inl he)))
      (arrivals_modify fun _ => rfl) id)
    (steady_modify (fun _ => rfl) (fun _ => rfl) fun _ => rfl) steady_setHandler
    (steady_connectionLost hrun)

theorem steady_activities (hrun : ∀ app, t ≠ .runForever app) :
    KeepsActivities (awaiting cfg t) (Steady t) cfg where
  send := steady_send hrun
  auth := steady_perform hrun rfl
  sleep := fun _ => steady_perform hrun rfl
  acquire := fun _ => steady_perform hrun rfl
  register := fun _ => Connection.keeps_register
    (steady_modify (fun _ => rfl) (fun _ => rfl) fun _ => rfl)
    (steady_modify (fun _ => rfl) (fun _ => rfl) fun _ => rfl)
  modify := fun hf => steady_modify (fun s => (congrArg arrivals (hf s) :))
    (fun s => (congrArg State.state (hf s) :)) fun s => (congrArg State.handshakeReceived (hf s) :)

/-! ## The greenlet of a websocket -/

/-- Inside `start` every greenlet has ended. -/
theorem allEnded_of_starting {s : State} {l : Label Op Activity} (hstarting : isStarting l = true)
    (hat : RestartAt s l) : AllEnded s := by
  unfold isStarting at hstarting
  split at hstarting
  · exact hat
  · exact hat
  · cases hstarting

/-- The greenlet of a websocket goes on as the only unfinished one. -/
theorem sole_of_known {app : Nat} {op : Op} {s : State} {P : Multiset (Label Op Activity)}
    (hknown : Known s (.blocked (.runForever app) op ::ₘ P)) : Sole app s P := by
  obtain ⟨hsingle, howned⟩ := hknown
  obtain ⟨a, ha, halive⟩ := howned.live app _ (Multiset.mem_cons_self _ P)
    (isOf_runForever app _ rfl)
  have hstored := hsingle.base.stored app a ha halive
  refine ⟨⟨a, ha, halive⟩, ?_, hstored.1, ?_⟩
  · intro other b hb hended
    have hother := hsingle.base.stored other b hb hended
    exact Option.some.inj (hother.1.symm.trans hstored.1)
  · intro l hl
    by_contra hstarting
    have hended : AllEnded s := allEnded_of_starting (by simpa using hstarting)
      (hsingle.at_ l (Multiset.mem_cons_of_mem hl))
    rw [allEnded_iff.mp hended app a ha] at halive
    cases halive

theorem waiting_of_blocked {app : Nat} {op : Op} {s : State} {P : Multiset (Label Op Activity)}
    {r : Except Exc op.Result} (h : Awaiting s (.blocked (.runForever app) op ::ₘ P))
    (hres : (awaiting cfg (.runForever app)).resume s P op r) : Waiting app s P :=
  ⟨steady_of_blocked h, sole_of_known hres.1.2⟩

/-- A busy greenlet goes on where its first message is behind it. -/
theorem mine_perform {app : Nat} {op : Op} (hbusy : isBusy (.blocked (.runForever app) op) = true)
    (hstarting : isStarting (.blocked (.runForever app) op) = false) :
    Keeps (awaiting cfg (.runForever app)) (Mine app) (perform op) := by
  refine Keeps.perform (fun s P h => ?_) fun s P r h hres => ⟨waiting_of_blocked h hres, ?_⟩
  · refine awaiting_block h.steady ?_ fun other _ _ => h.none other
    rw [hstarting]
    intro hfalse
    cases hfalse
  · exact h.head.busy app (isOf_runForever app _ rfl) hbusy

theorem isBusy_of_isPlain {op : Op} (h : isPlain op = true) (t : Activity) :
    isBusy (.blocked t op) = true ∧ isStarting (.blocked t op) = false := by
  cases op with
  | wsSend app message => cases h
  | post url headers => cases h
  | event app => cases h
  | auth site =>
      cases site with
      | start => cases h
      | send => exact ⟨rfl, rfl⟩
  | _ => exact ⟨rfl, rfl⟩

theorem mine_modify {app : Nat} {f : State → State} (hf : ∀ s, arrivals (f s) = arrivals s)
    (hws : ∀ s, (f s).ws = s.ws) :
    Keeps (awaiting cfg (.runForever app)) (Mine app) (modify f : Hub Unit) :=
  Keeps.modify fun s _ h => mine_congr h (hf s) (hws s)

theorem mine_offSocket {app : Nat} : OffSocket (awaiting cfg (.runForever app)) (Mine app) where
  congr := fun {s s' P} h hs => by
    have hfactor : ∀ s, arrivals s = arrivals (offSocket s) := fun s => by
      simp [arrivals, offSocket, offApp, Function.comp_def]
    refine mine_congr h ?_ (congrArg State.ws hs :)
    rw [hfactor s', hs, ← hfactor]
  perform := fun hplain =>
    mine_perform (isBusy_of_isPlain hplain _).1 (isBusy_of_isPlain hplain _).2
  fork := fun {t'} ht' s P h hmine => by
    have hready : ∀ l ∈ Label.ready t' ::ₘ P, isStarting l = false := by
      intro l hl
      rcases Multiset.mem_cons.mp hl with rfl | hl
      · rfl
      · exact hmine.sole.starting l hl
    have hfork : Keeps (awaiting cfg (.runForever app)) (Steady (.runForever app))
        (fork t' : Hub Unit) := steady_fork ht'
    have hsteady := hfork s P h hmine.steady
    exact ⟨⟨hsteady, { hmine.sole with starting := hready }⟩, hmine.notFresh⟩

/-- The greenlet of a websocket cannot restart: it would have to outlive its own end. -/
theorem mine_reconnect {app : Nat} :
    Keeps (awaiting cfg (.runForever app)) (Mine app) (WebsocketTransport.reconnect cfg) := by
  intro s P h hmine
  have hoff : OffSocket (awaiting cfg (.runForever app)) (Mine app) := mine_offSocket
  unfold WebsocketTransport.reconnect WebsocketTransport.killGreenlet
  rw [wp_bind]
  refine wp_mono ?_ (hoff.stopLost s P h hmine)
  rintro (e | _) s P h hmine
  · exact hmine
  simp only [wp_bind, wp_get]
  cases hgreenlet : s.greenlet with
  | none => exact hmine
  | some killed =>
      have hsame : Mine app { s with
          history := { s.history with interventions := WebsocketTransport.intervene s } } P :=
        mine_congr hmine rfl rfl
      have hset : Keeps (awaiting cfg (.runForever app)) (Mine app)
          (setApp killed fun a => { a with killed := true }) := hoff.setApp fun _ => rfl
      have hkilled := hset _ P h hsame
      unfold WebsocketTransport.killApp record
      simp only [Option.elim_some, wp_bind, wp_get, setApp, wp_modify] at hkilled ⊢
      rw [wp_perform]
      have hkeeps : Keeps (awaiting cfg (.runForever app)) (Mine app) (perform (Op.kill killed)) :=
        mine_perform rfl rfl
      refine ⟨(wp_perform.mp (hkeeps _ P h hkilled)).1, ?_⟩
      rintro s' P' (e | _) hawaiting hres
      · exact (wp_perform.mp (hkeeps _ P h hkilled)).2 s' P' _ hawaiting hres
      -- `kill` does not return here: what it has stopped is the greenlet that waits for it
      · obtain ⟨⟨⟨horderly, -⟩, hsingle, -⟩, -⟩ := id hres
        obtain ⟨a, ha, halive⟩ := (sole_of_known hres.1.2).alive
        have hstored : s'.greenlet = some app := (hsingle.base.stored app a ha halive).2
        have hhead : s'.greenlet = some killed := hsingle.head
        rw [hhead, Option.some.injEq] at hstored
        subst hstored
        rw [horderly.2 killed rfl a ha] at halive
        cases halive

/-- Where a callback of the websocket ends: an exception it reports comes after the first
message. -/
abbrev Handled (app : Nat) (α : Type) : Post State Exc Op Op.Result Activity α :=
  fun r s P _ => Waiting app s P ∧ ∀ e, r = .error e → e.isException = true → ¬Fresh s app

theorem handled_of_mine {app : Nat} {α : Type} {p : Hub α} {s : State}
    {P : Multiset (Label Op Activity)} {h : List (Logged State Exc Op Op.Result)}
    (hp : Keeps (awaiting cfg (.runForever app)) (Mine app) p) (hmine : Mine app s P) :
    p.wp (awaiting cfg (.runForever app)) (Handled app α) s P h :=
  wp_mono (fun _ _ _ _ h => ⟨h.toWaiting, fun _ _ _ => h.notFresh⟩) (hp s P h hmine)

/-- The handshake request of a websocket. -/
theorem waiting_onOpen {app : Nat} {s : State} {P : Multiset (Label Op Activity)}
    {h : List (Logged State Exc Op Op.Result)} (hwaiting : Waiting app s P) :
    (WebsocketTransport.onOpen cfg).wp (awaiting cfg (.runForever app)) (Handled app Unit) s P h := by
  obtain ⟨raw, hraw⟩ := cfg.protocol.encode_handshake
  have htransmit : (WebsocketTransport.transmit cfg
      (.handshake cfg.protocol.handshakeMessage)).wp (awaiting cfg (.runForever app))
        (fun r s P _ => Waiting app s P ∧ ∀ e, r = .error e →
          e.isConnectionLost = true ∧ ¬Fresh s app ∨ e = .greenletExit) s P h := by
    unfold WebsocketTransport.transmit WebsocketTransport.ws WebsocketTransport.write record setApp
    simp only [wp_bind, wp_get, hwaiting.sole.ws, Option.elim_some, wp_pure, wp_ofExcept, hraw,
      wp_modify, wp_tryCatch, wp_raise]
    rw [wp_perform]
    refine ⟨?_, ?_⟩
    · refine awaiting_block (awaiting_congr hwaiting.steady rfl rfl rfl) ?_ ?_
      · intro hfalse
        cases hfalse
      · intro _ _ hfalse
        cases hfalse
    · rintro s P (e | _) hawaiting hres
      · have hgoesOn := waiting_of_blocked hawaiting hres
        have hset : arrivals { s with apps := s.apps.modify app fun a =>
            { a with lost := a.lost || e.isConnectionLost } } = arrivals s :=
          arrivals_modify fun _ => rfl
        refine ⟨waiting_congr hgoesOn hset rfl rfl rfl, ?_⟩
        rintro e' he
        cases he
        rcases Hub.possible_write hres.2 with hlost | hkilled
        -- a write is lost only behind `connecting`, and then no first message is awaited
        · have hstate : s.state ≠ .connecting := hres.1.1.2 (.inl hlost)
          have hsettled : Settled (.runForever app) s P := settled_of_state hgoesOn.steady hstate
          exact .inl ⟨hlost, fun hfresh => hsettled.notFresh app (fresh_congr hset hfresh)⟩
        · exact .inr hkilled
      · have hgoesOn := waiting_of_blocked hawaiting hres
        exact ⟨waiting_congr hgoesOn rfl rfl rfl rfl, by simp⟩
  unfold WebsocketTransport.onOpen WebsocketTransport.send
  rw [wp_tryCatch]
  refine wp_mono ?_ htransmit
  rintro (e | _) s P h ⟨hwaiting, herror⟩
  · rcases herror e rfl with ⟨hlost, hnot⟩ | rfl
    · simp only [hlost, if_true]
      exact handled_of_mine (mine_offSocket.connectionLost mine_reconnect e) ⟨hwaiting, hnot⟩
    · exact ⟨hwaiting, by rintro e he hexception; cases he; cases hexception⟩
  · exact ⟨hwaiting, by simp⟩

/-- Where an event of the websocket has been dealt with. -/
theorem handled_opened {app : Nat} {s : State} {P : Multiset (Label Op Activity)}
    {h : List (Logged State Exc Op Op.Result)} (hwaiting : Waiting app s P) :
    (WebSocketApp.handle cfg app .opened).wp (awaiting cfg (.runForever app)) (Handled app Bool)
      s P h := by
  unfold WebSocketApp.handle WebSocketApp.callback setApp
  simp only [wp_bind, wp_modify, wp_tryCatch]
  have hopened : Waiting app { s with apps := s.apps.modify app fun a => { a with opened := true } } P :=
    waiting_congr hwaiting (arrivals_modify fun _ => rfl) rfl rfl rfl
  refine wp_mono ?_ (waiting_onOpen hopened)
  rintro (e | _) s P h ⟨hwaiting, hnot⟩
  · by_cases hexception : e.isException = true
    · simp only [hexception, if_true]
      refine wp_mono ?_ (mine_offSocket.onSocketError (.failed app false) s P h
        ⟨hwaiting, hnot e rfl hexception⟩)
      rintro (e | _) s P h hmine
      · exact ⟨hmine.toWaiting, fun _ _ _ => hmine.notFresh⟩
      · exact ⟨hmine.toWaiting, by simp⟩
    · simp only [hexception]
      refine ⟨hwaiting, ?_⟩
      rintro e' he hexception'
      cases he
      exact absurd hexception' hexception
  · exact ⟨hwaiting, by simp⟩

/-- A change that lets a websocket fall silent makes none fresh. -/
theorem fresh_modify {s : State} {app other : Nat} {f : App → App}
    (hended : ∀ a, (f a).ended = false → a.ended = false)
    (hsilent : ∀ a, (f a).silent = false → a.silent = false)
    (h : Fresh { s with apps := s.apps.modify app f } other) : Fresh s other := by
  obtain ⟨⟨a', ha', hended', hsilent'⟩, hreceived⟩ := h
  obtain ⟨a, ha, rfl⟩ := getElem?_modify_some ha'
  refine ⟨⟨a, ha, ?_⟩, hreceived⟩
  split_ifs at hended' hsilent'
  · exact ⟨hended a hended', hsilent a hsilent'⟩
  · exact ⟨hended', hsilent'⟩

theorem awaiting_modify {s : State} {P : Multiset (Label Op Activity)} {app : Nat} {f : App → App}
    (hended : ∀ a, (f a).ended = false → a.ended = false)
    (hsilent : ∀ a, (f a).silent = false → a.silent = false) (h : Awaiting s P) :
    Awaiting { s with apps := s.apps.modify app f } P := by
  refine awaiting_of h ⟨?_, h.base.first, h.base.created⟩
    (fun l hl => (h.at_ l hl).starting) (by simp) fun _ _ => fresh_modify hended hsilent
  exact fun other hfresh => h.base.fresh other (fresh_modify hended hsilent hfresh)

/-- A websocket whose greenlet goes on, but gets no more events. -/
theorem mine_setSilent {app : Nat} {s : State} {P : Multiset (Label Op Activity)}
    (h : Waiting app s P) :
    Mine app { s with apps := s.apps.modify app fun a => { a with silent := true } } P := by
  have hsole : Sole app { s with apps := s.apps.modify app fun a => { a with silent := true } } P :=
    sole_congr h.sole (by simp [map_modify]) rfl
  refine ⟨⟨awaiting_modify (fun _ => id) (fun _ hfalse => by cases hfalse) h.steady, hsole⟩, ?_⟩
  rintro ⟨⟨a', ha', -, hsilent⟩, -⟩
  obtain ⟨a, ha, rfl⟩ := getElem?_modify_some ha'
  simp at hsilent

/-- A greenlet before a message: no other event has come first. -/
structure Arrived (app : Nat) (s : State) (P : Multiset (Label Op Activity)) : Prop where
  waiting : Waiting app s P
  speaking : ∃ a, s.apps[app]? = some a ∧ a.silent = false

/-- The first message of a websocket finds the flag cleared and the state connecting. -/
theorem mine_received {app : Nat} {s : State} {P : Multiset (Label Op Activity)}
    (h : Arrived app s P) :
    Mine app { s with history := { s.history with
      received := s.history.received ++ [(app, s.handshakeReceived, s.state)] } } P := by
  obtain ⟨hwaiting, a, ha, hsilent⟩ := h
  -- a websocket that is still fresh has not got this message
  have hold : ∀ other, Fresh { s with history := { s.history with
      received := s.history.received ++ [(app, s.handshakeReceived, s.state)] } } other →
        Fresh s other := fun other hfresh =>
    ⟨hfresh.1, fun r hr => hfresh.2 r (List.mem_append_left _ hr)⟩
  refine ⟨⟨awaiting_of hwaiting.steady ⟨?_, ?_, hwaiting.steady.base.created⟩
    (fun l hl => (hwaiting.steady.at_ l hl).starting) le_rfl fun other _ => hold other,
    sole_congr hwaiting.sole rfl rfl⟩, ?_⟩
  · exact fun other hfresh => hwaiting.steady.base.fresh other (hold other hfresh)
  · intro other r hr
    unfold firstReceived at hr
    rw [List.find?_append, Option.or_eq_some_iff] at hr
    rcases hr with hr | ⟨hnone, hr⟩
    · exact hwaiting.steady.base.first other r hr
    · -- the first message of `other`, so that it is this one
      obtain ⟨b, hb, halive⟩ := hwaiting.sole.alive
      rw [List.find?_singleton] at hr
      split_ifs at hr with happ
      obtain rfl : app = other := eq_of_beq happ
      cases hr
      rw [ha, Option.some.injEq] at hb
      subst hb
      have hfresh : Fresh s app := by
        refine ⟨⟨a, ha, halive, hsilent⟩, fun r hr => ?_⟩
        simpa using List.find?_eq_none.mp hnone r hr
      obtain ⟨hstate, hflag⟩ := hwaiting.steady.base.fresh app hfresh
      show (s.handshakeReceived, s.state) = _
      rw [hstate, hflag]
  · intro hfresh
    exact hfresh.2 (app, s.handshakeReceived, s.state) (by simp) rfl

theorem mine_dispatch {app : Nat} :
    Connection.KeepsDispatch (awaiting cfg (.runForever app)) (Mine app) where
  calls := ⟨fun _ => mine_modify (fun _ => rfl) fun _ => rfl, fun _ _ => mine_perform rfl rfl⟩
  dispatched := fun _ => mine_modify (fun _ => rfl) fun _ => rfl
  unregister := fun _ => mine_modify (fun _ => rfl) fun _ => rfl
  event := fun _ _ => mine_perform rfl rfl
  error := fun _ => mine_perform rfl rfl

theorem mine_handleMessage (app : Nat) (raw : Raw) :
    Leads (awaiting cfg (.runForever app)) (Arrived app) (Mine app)
      (WebSocketApp.handle cfg app (.message raw)) := by
  have hoff : OffSocket (awaiting cfg (.runForever app)) (Mine app) := mine_offSocket
  have hreceive : Leads (awaiting cfg (.runForever app)) (Arrived app) (Mine app)
      (WebsocketTransport.receive cfg app raw) := by
    intro s P h harrived
    refine (wp_bind _ _).mpr ?_
    refine (wp_bind _ _).mpr ?_
    refine hoff.interpret ?_ _ P h (mine_received harrived)
    intro f hf
    refine mine_modify (fun s => ?_) fun _ => rfl
    have hfields := hf s.history
    simp only [arrivals, Prod.mk.injEq, true_and]
    exact ⟨(congrArg History.received hfields :), (congrArg History.creations hfields :)⟩
  exact WebSocketApp.leads_handleMessage hreceive
    (fun _ => Connection.keeps_onMessage (fun _ => Connection.keeps_dispatch mine_dispatch)
      (hoff.stop _)) (hoff.onSocketError _)

/-- A round of `run_forever` waits first, and goes on as the only unfinished greenlet. -/
theorem waiting_round {app : Nat} {s : State} {P : Multiset (Label Op Activity)}
    {h : List (Logged State Exc Op Op.Result)} (hsteady : Steady (.runForever app) s P) :
    (WebSocketApp.round cfg app).wp (awaiting cfg (.runForever app)) (fun _ s P _ => Waiting app s P)
      s P h := by
  have hoff : OffSocket (awaiting cfg (.runForever app)) (Mine app) := mine_offSocket
  have hhandled : (WebSocketApp.nextEvent app >>= WebSocketApp.handle cfg app).wp
      (awaiting cfg (.runForever app)) (Handled app Bool) s P h := by
    unfold WebSocketApp.nextEvent
    rw [wp_bind, wp_perform]
    refine ⟨awaiting_block hsteady (fun hfalse => by cases hfalse)
      (fun _ _ hfalse => by cases hfalse), ?_⟩
    rintro s P (e | event) hawaiting hres
    · refine ⟨waiting_of_blocked hawaiting hres, ?_⟩
      rintro e' he hexception
      cases he
      rw [Hub.possible_event_error hres.2] at hexception
      cases hexception
    have hwaiting := waiting_of_blocked hawaiting hres
    obtain ⟨a, ha, hpossible⟩ := Hub.possible_event hres.2
    cases event with
    | opened => exact handled_opened hwaiting
    | message raw =>
        -- a message reaches only a websocket that has not gone silent
        have hsilent : a.silent = false := by
          by_contra hsilent
          simp [Hub.isPossible, hsilent] at hpossible
        refine wp_mono ?_ (mine_handleMessage app raw s P _ ⟨hwaiting, a, ha, hsilent⟩)
        exact fun _ _ _ _ hmine => ⟨hmine.toWaiting, fun _ _ _ => hmine.notFresh⟩
    | failed e =>
        have hmine := mine_setSilent hwaiting
        exact ⟨hmine.toWaiting, fun _ _ _ => hmine.notFresh⟩
    | closed => exact ⟨(mine_setSilent hwaiting).toWaiting, by simp⟩
  unfold WebSocketApp.round
  rw [wp_tryCatch]
  refine wp_mono ?_ hhandled
  rintro (e | _) s P h ⟨hwaiting, hnot⟩
  · show Prog.wp _ (if e.isException then _ else _) _ _ _ _
    split_ifs with hexception
    · have hmine : Mine app s P := ⟨hwaiting, hnot e rfl hexception⟩
      exact wp_mono (fun _ _ _ _ h => h.toWaiting)
        (Keeps.bind (hoff.callback (hoff.onSocketError _)) (fun _ => .pure _) s P h hmine)
    · exact hwaiting
  · exact hwaiting

theorem awaiting_endRound {app : Nat} {r : Except Exc Bool} {s : State}
    {P : Multiset (Label Op Activity)} {h : List (Logged State Exc Op Op.Result)}
    (hwaiting : Waiting app s P) :
    (WebSocketApp.endRound app r).wp (awaiting cfg (.runForever app))
      (Ends Awaiting (fun _ _ _ _ => True) (.runForever app)) s P h := by
  have hoff : OffSocket (awaiting cfg (.runForever app)) (Mine app) := mine_offSocket
  have hteardown : (WebSocketApp.teardown app).wp (awaiting cfg (.runForever app))
      (fun _ s P _ => Awaiting s P) s P h := by
    unfold WebSocketApp.teardown setApp
    simp only [wp_bind, wp_modify, wp_finally]
    refine wp_mono ?_ (hoff.callback (hoff.onClosed app) _ P h (mine_setSilent hwaiting))
    intro r s P h hmine
    exact awaiting_modify (fun _ hfalse => by cases hfalse) (fun _ => id) hmine.steady.tail
  exact WebSocketApp.ends_endRound hteardown hwaiting.steady

theorem awaiting_runForever {app : Nat} {s : State} {P : Multiset (Label Op Activity)}
    {h : List (Logged State Exc Op Op.Result)} (hsteady : Steady (.runForever app) s P) :
    (WebSocketApp.runForever cfg app).wp (awaiting cfg (.runForever app))
      (Ends Awaiting (fun _ _ _ _ => True) (.runForever app)) s P h := by
  unfold WebSocketApp.runForever setApp
  simp only [wp_bind, wp_get]
  split_ifs
  · exact ⟨trivial, awaiting_modify (fun _ hfalse => by cases hfalse) (fun _ => id) hsteady.tail⟩
  · simp only [wp_bind, wp_modify, wp_attempt]
    have harrivals : arrivals { s with apps := s.apps.modify app fun a =>
        { a with started := true } } = arrivals s := arrivals_modify fun _ => rfl
    have hstarted := awaiting_congr hsteady harrivals rfl rfl
    refine wp_mono ?_ (waiting_round hstarted)
    intro r s P h hwaiting
    exact awaiting_endRound hwaiting

/-! ## Runs -/

/-- A `start()` of the user. -/
theorem steady_userStart {s : State} {P : Multiset (Label Op Activity)}
    {h : List (Logged State Exc Op Op.Result)} (hsteady : Steady .start s P)
    (hstart : StartsNothing cfg s ∨ s.handshakeReceived = false) :
    (Hub.body cfg .start).wp (awaiting cfg .start) (fun _ s P _ => Steady .start s P) s P h := by
  have hstopped : Steady .start { s with history := { s.history with stopped := false } } P :=
    awaiting_congr hsteady rfl rfl rfl
  change (Hub.once _).wp (awaiting cfg .start) _ s P h
  unfold Hub.once
  rcases hstart with ⟨hauth, hskip, hconnected⟩ | hflag
  · simpa [record, Connection.start, Connection.refreshTokenMaybe, WebsocketTransport.start,
      hauth, hskip, hconnected] using hstopped
  · refine Leads.bind_keeps (J := Steady .start) (fun s P h hclear => ?_) (fun _ => .pure _) s P h
      (⟨hsteady, hflag⟩ : Clear .start s P)
    rw [wp_bind]
    exact steady_start (by simp) _ P h ⟨awaiting_congr hclear.steady rfl rfl rfl, hclear.flag⟩

theorem steady_userStop : Keeps (awaiting cfg .stop) (Steady .stop) (Hub.body cfg .stop) := by
  have hstop : Keeps (awaiting cfg .stop) (Steady .stop) (Connection.stop .user) :=
    fun _ _ _ h => wp_mono (fun _ _ _ _ h => h.1) (steady_stop (by simp) h)
  exact keeps_once (Keeps.finally_ hstop (steady_modify (fun _ => rfl) (fun _ => rfl) fun _ => rfl))

/-- The invariant holds along every run of the condition. -/
theorem awaiting_proof :
    Proof (hub cfg) ((OwnHandshake cfg).and (.within Known)) Awaiting fun _ _ _ _ => True := by
  have hknown : ∀ t s P, Known s P → Known (Hub.enter t s) P := fun _ _ _ h =>
    ⟨single_congr h.1 rfl, owned_congr h.2 rfl⟩
  refine Hub.proof ⟨fun _ _ _ h => awaiting_congr h rfl rfl rfl,
    fun t s P _ h => ⟨h.1, hknown t s _ h.2⟩, fun t s P _ _ _ h => ⟨h.1, hknown t s _ h.2⟩⟩ ?_ ?_ ?_
  · refine ⟨⟨?_, ?_, ?_⟩, by simp⟩
    · rintro app ⟨⟨a, ha, -⟩, -⟩
      simp [State.new] at ha
    · intro app r hr
      simp [firstReceived, State.new, History.new] at hr
    · intro c hc
      simp [State.new, History.new] at hc
  · rintro s P t hawaiting harrives -
    exact awaiting_ready hawaiting (Hub.ne_runForever_of_arrives harrives)
  · rintro s P t hsteady ⟨⟨-, hcleared⟩, -⟩
    have htail : ∀ s P, Awaiting s (.ready t ::ₘ P) → Awaiting s P := fun _ _ h => h.tail
    by_cases hrun : ∃ app, t = .runForever app
    · obtain ⟨app, rfl⟩ := hrun
      exact awaiting_runForever hsteady
    have hrun' : ∀ app, t ≠ .runForever app := fun app h => hrun ⟨app, h⟩
    by_cases hstart : t = .start
    · subst hstart
      exact ends_of_ready htail (steady_userStart hsteady (hcleared rfl))
    by_cases hstop : t = .stop
    · subst hstop
      exact ends_of_ready htail (steady_userStop s P [] hsteady)
    · exact ends_of_ready htail ((steady_activities hrun').body hstart hstop
        (fun app h => absurd h (hrun' app)) s P [] hsteady)

/-- What the earlier modules have proved of these runs. -/
theorem known_reach {w : World State Exc Op Op.Result Activity}
    (h : (hub cfg).Reach (OwnHandshake cfg) w) : Known w.shared w.labels :=
  ⟨(single_proof.sound (h.mono (Cond.and_implies_left _ _))).holds, owned_reach h⟩

/-- The message was evaluated as a handshake response and connected the transport. -/
structure Evaluated (app : Nat) (s s' : State) : Prop where
  state : s'.state = .connected
  flag : s'.handshakeReceived = true
  accepted : s'.history.accepted = s.history.accepted ++ [app]

/-- What a program that starts there keeps. -/
abbrev evaluating (app : Nat) (s : State) : HubRely :=
  ⟨.runForever app, fun s' _ => Evaluated app s s', fun _ _ _ _ => True⟩

theorem evaluated_modify {app : Nat} {s : State} {f : State → State}
    (hf : ∀ s', Evaluated app s s' → Evaluated app s (f s')) :
    Keeps (evaluating app s) (fun s' _ => Evaluated app s s') (modify f : Hub Unit) :=
  Keeps.modify fun s' _ h => hf s' h

theorem evaluated_acceptHandshake {app : Nat} {s s₀ : State} {P : Multiset (Label Op Activity)}
    {h : List (Logged State Exc Op Op.Result)} (hs : s₀.history.accepted = s.history.accepted) :
    (WebsocketTransport.acceptHandshake app).wp (evaluating app s)
      (fun _ s' _ _ => Evaluated app s s') s₀ P h := by
  have hdone : Keeps (evaluating app s) (fun s' _ => Evaluated app s s')
      WebsocketTransport.handshakeDone :=
    WebsocketTransport.keeps_handshakeDone
      (fun _ => evaluated_modify fun _ h => ⟨h.state, h.flag, h.accepted⟩)
      (Keeps.bind (evaluated_modify fun _ h => ⟨h.state, h.flag, h.accepted⟩) fun _ =>
        Keeps.fork fun _ _ h => h)
  unfold WebsocketTransport.acceptHandshake WebsocketTransport.setHandshakeReceived
    WebsocketTransport.setState record
  simp only [wp_bind, wp_get, wp_modify, wp_when, decide_true, if_true]
  refine hdone _ P h ⟨rfl, rfl, ?_⟩
  show s₀.history.accepted ++ [app] = _
  rw [hs]

/-- A message that finds the flag cleared and carries no error connects, before anything
else can happen. -/
theorem receive_evaluated (app : Nat) {raw : Raw} (s : State) {response : HandshakeResponseMessage}
    {messages : List Message} (hflag : s.handshakeReceived = false)
    (hdecode : cfg.protocol.decodeHandshake raw = .ok (response, messages))
    (haccepted : WebsocketTransport.isAccepted response = true) :
    Evaluated app s ((WebsocketTransport.receive cfg app raw).run s).1 := by
  have hopen : Keeps (evaluating app s) (fun s' _ => Evaluated app s s')
      WebsocketTransport.reportOpen :=
    WebsocketTransport.keeps_reportOpen
      (Keeps.bind (evaluated_modify fun _ h => ⟨rfl, h.flag, h.accepted⟩) fun _ =>
        Keeps.when fun _ => evaluated_modify fun _ h => ⟨h.state, h.flag, h.accepted⟩)
      (evaluated_modify fun _ h => ⟨h.state, h.flag, h.accepted⟩)
      (Keeps.perform (fun _ _ h => h) fun _ _ _ h _ => h)
  have hwp : (WebsocketTransport.receive cfg app raw).wp (evaluating app s)
      (fun _ s' _ _ => Evaluated app s s') s 0 [] := by
    unfold WebsocketTransport.receive WebsocketTransport.interpret
      WebsocketTransport.evaluateHandshake WebsocketTransport.judge
    simp only [hflag, hdecode, haccepted, record, wp_bind, wp_get, wp_modify, Bool.not_false, if_true,
      wp_ofExcept, wp_pure]
    refine wp_mono ?_ (evaluated_acceptHandshake rfl)
    rintro (e | _) s' P h hevaluated
    · exact hevaluated
    · refine wp_mono ?_ (hopen s' P h hevaluated)
      rintro (e | _) s' P h hevaluated
      · exact hevaluated
      · exact hevaluated
  have hstretch := Prog.stretch_run _ hwp
  revert hstretch
  rcases (WebsocketTransport.receive cfg app raw).run s with ⟨s', ts, outcome⟩
  rcases outcome with r | ⟨op, k⟩
  · exact fun hstretch => hstretch
  · exact fun hstretch => hstretch.1

/-- In every run of the condition each websocket does its own handshake: it is created
with the flag cleared; its first message finds the flag cleared and the state connecting;
and such a message, when it carries no error, is evaluated as a handshake response and
connects. -/
theorem own_handshake {w : World State Exc Op Op.Result Activity}
    (h : (hub cfg).Reach (OwnHandshake cfg) w) :
    (∀ c ∈ w.shared.history.creations, c.handshakeReceived = false) ∧
      (∀ (app : Nat) (r : Nat × Bool × ConnectionState), firstReceived w.shared app = some r →
        r.2 = (false, .connecting)) ∧
      ∀ (app : Nat) (raw : Raw) (s : State) (response : HandshakeResponseMessage)
        (messages : List Message), s.handshakeReceived = false →
          cfg.protocol.decodeHandshake raw = .ok (response, messages) →
            WebsocketTransport.isAccepted response = true →
              Evaluated app s ((WebsocketTransport.receive cfg app raw).run s).1 := by
  have hbase : AwaitingState w.shared :=
    (awaiting_proof.sound (h.within fun _ h => known_reach h)).holds.base
  exact ⟨hbase.created, hbase.first, fun app _ s _ _ => receive_evaluated app s⟩

/-- Without the condition: the server closes the websocket, and the user starts again. The
second websocket is created with the flag set, and its handshake response is taken for
messages. -/
theorem restarted_handshake :
    ∃ w, (hub (.direct none)).Reach .any w ∧
      (∃ c ∈ w.shared.history.creations, c.handshakeReceived = true) ∧
      firstReceived w.shared 1 = some (1, true, .connecting) ∧ w.shared.history.accepted = [0] := by
  have h := (hub (.direct none)).reach_after [.fork .start, .start 0, .start 1,
    .answer 1 (.happened .opened), .answer 1 .done, .start 1,
    .answer 1 (.happened (.message (.text "\x7b\x7d\x1e"))), .start 1,
    .answer 1 (.happened .closed), .fork .start, .start 2, .start 3,
    .answer 3 (.happened .opened), .answer 3 .done, .start 3,
    .answer 3 (.happened (.message (.text "\x7b\x7d\x1e")))] .start rfl
  exact ⟨_, h, ⟨_, List.mem_of_getElem? (i := 1) rfl, rfl⟩, rfl, rfl⟩

/-- A connection that was opened, stopped and started again. -/
theorem own_handshake_again :
    ∃ w, (hub (.direct none)).Reach (OwnHandshake (.direct none)) w ∧
      w.shared.history.accepted = [0, 1] ∧
      (∀ c ∈ w.shared.history.creations, c.handshakeReceived = false) ∧
      ∀ (app : Nat) (r : Nat × Bool × ConnectionState), firstReceived w.shared app = some r →
        r.2 = (false, .connecting) := by
  have h := (hub (.direct none)).reach_within (OwnHandshake (.direct none)) [.fork .start, .start 0,
    .start 1, .answer 1 (.happened .opened), .answer 1 .done, .start 1,
    .answer 1 (.happened (.message (.text "\x7b\x7d\x1e"))), .start 1, .fork .stop, .start 2,
    .answer 2 .done, .answer 1 (.happened .closed), .fork .start, .start 3, .start 4,
    .answer 4 (.happened .opened), .answer 4 .done, .start 4,
    .answer 4 (.happened (.message (.text "\x7b\x7d\x1e")))] .start rfl
  exact ⟨_, h, rfl, (own_handshake h).1, (own_handshake h).2.1⟩

end GeventSignalR
