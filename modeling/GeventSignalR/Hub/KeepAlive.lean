import GeventSignalR.Hub.Restart
import Mathlib.Data.Multiset.Count

/-!
# Keep-alive loops

`running` is a request to stop and a sign of life at once.  A loop that is asked to stop
looks at it only behind its next sleep, and one that ends with an exception leaves it set.

* `Lasting` are the steps in which neither matters: no handshake is accepted while a stopped
  loop is still asleep, and no loop ends with an exception.
* `KeepAlive` is the invariant that relates `running` to the number of loops.
-/

namespace GeventSignalR

open Coop Coop.Prog

/-- The thread is a loop of the connection checker. -/
def isLoop : Activity → Bool
  | .checkerRun => true
  | _ => false

/-- The number of loops. -/
def loops (P : Multiset (Label Op Activity)) : Nat :=
  P.countP fun l => isLoop l.thread = true

/-- A loop survives what its operation returned: the `on_reconnect` callback has not raised,
and where a step of a restart fails, the reconnection handler allows another attempt. -/
def endures (cfg : Config) (s : State) : (op : Op) → Except Exc op.Result → Bool
  | .callback .onReconnect, .error _ => false
  | op, r => (restartError cfg s op r).all fun e => e.isException && hasNext s

/-- A handshake is accepted only while no stopped loop is left, and no running loop ends
with an exception. -/
def Lasting (cfg : Config) : Cond State Exc Op Op.Result Activity where
  fork := fun _ _ _ => True
  start := fun _ _ _ => True
  resume := fun s P t op r =>
    (∀ raw ∈ arrived op r, s.handshakeReceived = false → s.reconnectionHandler.isSome = true →
      s.running = false → ∀ response ∈ (cfg.protocol.decodeHandshake raw).toOption,
        WebsocketTransport.isAccepted response.1 = true → loops P = 0) ∧
      (isLoop t = true → s.running = true → endures cfg s op r = true)

instance (cfg : Config) : System.Decides (Lasting cfg) where
  fork := fun _ _ _ => isTrue trivial
  start := fun _ _ _ => isTrue trivial
  resume := fun _ _ _ _ _ => inferInstanceAs (Decidable (_ ∧ _))

/-- The greenlets that exist only once a websocket was created. -/
def isOwn : Activity → Bool
  | .runForever _ => true
  | .checkerRun => true
  | _ => false

/-- There is one loop while `running` is set, and at most one that has not noticed yet
otherwise. -/
structure KeepAlive (cfg : Config) (s : State) (P : Multiset (Label Op Activity)) : Prop where
  configured : s.reconnectionHandler.isSome = cfg.reconnection.isSome
  running : s.running = true → loops P = 1
  idle : s.running = false → loops P ≤ 1
  established : s.history.established = true → s.reconnectionHandler.isSome = true →
    s.running = true
  stored : ∀ l ∈ P, isOwn l.thread = true → s.ws ≠ none ∧ s.greenlet ≠ none
  handler : ∀ l ∈ P, isLoop l.thread = true → s.reconnectionHandler.isSome = true

variable {cfg : Config} {t : Activity} {s s' : State} {P : Multiset (Label Op Activity)}
  {l l' : Label Op Activity}

/-- What the proof assumes. -/
abbrev lasting (cfg : Config) (t : Activity) : HubRely :=
  (hub cfg).rely ((Lasting cfg).and (hub cfg).rooted) (KeepAlive cfg) t

/-- The invariant of a thread that runs. -/
abbrev AliveInv (cfg : Config) (t : Activity) : HubInv :=
  fun s P => KeepAlive cfg s (.ready t ::ₘ P)

/-- Where a loop raises, it was asked to stop. -/
abbrev Released (t : Activity) : Exc → HubInv :=
  fun _ s _ => isLoop t = true → s.running = false

/-- Where a step of a restart fails in a loop, it goes on with another attempt. -/
abbrev Retries (t : Activity) : Exc → HubInv :=
  fun e s _ => isLoop t = true → s.running = true → e.isException = true ∧ hasNext s = true

/-! ## Counting -/

@[simp] theorem loops_zero : loops 0 = 0 := rfl

theorem loops_cons : loops (l ::ₘ P) = loops P + if isLoop l.thread then 1 else 0 := by
  simp [loops, Multiset.countP_cons]

namespace KeepAlive

/-- What the invariant reads of the state. -/
def view (s : State) : (Bool × Bool × Bool) × Option Nat × Option Nat :=
  ((s.reconnectionHandler.isSome, s.running, s.history.established), s.ws, s.greenlet)

theorem congr (h : KeepAlive cfg s P) (hs : view s' = view s) : KeepAlive cfg s' P := by
  simp only [view, Prod.mk.injEq] at hs
  obtain ⟨⟨hhandler, hrunning, hestablished⟩, hws, hgreenlet⟩ := hs
  obtain ⟨configured, running, idle, established, stored, handler⟩ := h
  constructor
  · rwa [hhandler]
  · rwa [hrunning]
  · rwa [hrunning]
  · rwa [hestablished, hhandler, hrunning]
  · rwa [hws, hgreenlet]
  · rwa [hhandler]

/-- Only the thread of a position counts. -/
theorem relabel (h : KeepAlive cfg s (l ::ₘ P)) (hl : l'.thread = l.thread) :
    KeepAlive cfg s (l' ::ₘ P) := by
  have hloops : loops (l' ::ₘ P) = loops (l ::ₘ P) := by rw [loops_cons, loops_cons, hl]
  have hmem : ∀ m ∈ l' ::ₘ P, ∃ m' ∈ l ::ₘ P, m'.thread = m.thread := by
    intro m hm
    rcases Multiset.mem_cons.mp hm with rfl | hm
    · exact ⟨l, Multiset.mem_cons_self l P, hl.symm⟩
    · exact ⟨m, Multiset.mem_cons_of_mem hm, rfl⟩
  refine ⟨h.configured, fun hr => hloops ▸ h.running hr, fun hr => hloops ▸ h.idle hr,
    h.established, fun m hm hown => ?_, fun m hm hloop => ?_⟩
  · obtain ⟨m', hm', hthread⟩ := hmem m hm
    exact h.stored m' hm' (hthread ▸ hown)
  · obtain ⟨m', hm', hthread⟩ := hmem m hm
    exact h.handler m' hm' (hthread ▸ hloop)

/-- Another thread, which is no loop. -/
theorem cons (h : KeepAlive cfg s P) (hloop : isLoop l.thread = false)
    (hown : isOwn l.thread = true → s.ws ≠ none ∧ s.greenlet ≠ none) :
    KeepAlive cfg s (l ::ₘ P) := by
  have hloops : loops (l ::ₘ P) = loops P := by simp [loops_cons, hloop]
  refine ⟨h.configured, fun hr => hloops ▸ h.running hr, fun hr => hloops ▸ h.idle hr,
    h.established, fun m hm => ?_, fun m hm hm' => ?_⟩
  · rcases Multiset.mem_cons.mp hm with rfl | hm
    · exact hown
    · exact h.stored m hm
  · rcases Multiset.mem_cons.mp hm with rfl | hm
    · rw [hloop] at hm'
      cases hm'
    · exact h.handler m hm hm'

/-- A thread is gone, which was no loop, or one that was asked to stop. -/
theorem tail (h : KeepAlive cfg s (l ::ₘ P)) (hl : isLoop l.thread = true → s.running = false) :
    KeepAlive cfg s P := by
  have hloops := loops_cons (l := l) (P := P)
  refine ⟨h.configured, fun hr => ?_, fun hr => ?_, h.established,
    fun m hm => h.stored m (Multiset.mem_cons_of_mem hm),
    fun m hm => h.handler m (Multiset.mem_cons_of_mem hm)⟩
  · have hone := h.running hr
    cases hloop : isLoop l.thread with
    | false => simpa [hloop] using hloops.symm.trans hone
    | true => simp [hl hloop] at hr
  · have hidle := h.idle hr
    omega

end KeepAlive

/-! ## Leaves -/

theorem loop_modify {f : State → State} (hf : ∀ s, KeepAlive.view (f s) = KeepAlive.view s) :
    Keeps (lasting cfg t) (AliveInv cfg t) (modify f : Hub Unit) :=
  Keeps.modify fun s _ h => h.congr (hf s)

theorem loop_perform (op : Op) : Keeps (lasting cfg t) (AliveInv cfg t) (perform op) :=
  Keeps.perform (fun _ _ h => h.relabel rfl) fun _ _ _ h _ => h.relabel rfl

theorem loop_fork {t' : Activity} (ht : isOwn t' = false) :
    Keeps (lasting cfg t) (AliveInv cfg t) (fork t' : Hub Unit) := by
  refine Keeps.fork fun s P h => ?_
  show KeepAlive cfg s (.ready t ::ₘ .ready t' ::ₘ P)
  rw [Multiset.cons_swap]
  refine h.cons (l := .ready t') ?_ fun hown => ?_
  · cases t' with
    | checkerRun => cases ht
    | _ => rfl
  · rw [show isOwn t' = true from hown] at ht
    cases ht

theorem loop_setState (value : ConnectionState) :
    Keeps (lasting cfg t) (AliveInv cfg t) (WebsocketTransport.setState value) :=
  Keeps.bind (loop_modify fun _ => rfl) fun _ => Keeps.when fun _ => loop_modify fun _ => rfl

theorem loop_setHandler (f : ReconnectionHandler → ReconnectionHandler) :
    Keeps (lasting cfg t) (AliveInv cfg t) (WebsocketTransport.setHandler f) :=
  loop_modify fun s => by simp [KeepAlive.view]

/-- A loop that is asked to stop may be there for a while. -/
theorem loop_checkerStop :
    Keeps (lasting cfg t) (AliveInv cfg t) ConnectionStateChecker.stop := by
  refine Keeps.modify fun s P h => ?_
  refine ⟨h.configured, fun hr => ?_, fun _ => ?_, fun he => ?_, h.stored, h.handler⟩
  · cases hr
  · cases hrunning : s.running with
    | true => exact le_of_eq (h.running hrunning)
    | false => exact h.idle hrunning
  · cases he

/-- The greenlet of a new websocket finds it stored. -/
theorem loop_createApp :
    Keeps (lasting cfg t) (AliveInv cfg t) WebsocketTransport.createApp := by
  intro s P h' h
  have hstored : KeepAlive cfg { s with
      apps := s.apps ++ [WebsocketTransport.newApp s.url s.oldHeaders.length (!s.history.current.isStart)]
      ws := some s.apps.length
      greenlet := some s.apps.length } (.ready t ::ₘ P) :=
    ⟨h.configured, h.running, h.idle, h.established, fun _ _ _ => by simp, h.handler⟩
  have hnew := hstored.cons (l := .ready (.runForever s.apps.length)) rfl fun _ => by simp
  rw [Multiset.cons_swap] at hnew
  exact hnew.congr rfl

/-! ## Restarts -/

theorem restartError_endures {op : Op} {r : Except Exc op.Result} {e : Exc}
    (hendures : endures cfg s op r = true) (hr : restartError cfg s op r = some e) :
    e.isException = true ∧ hasNext s = true := by
  unfold endures at hendures
  split at hendures
  · cases hendures
  · rw [hr] at hendures
    exact Bool.and_eq_true_iff.mp hendures

theorem loop_keepsRestart : KeepsRestart (lasting cfg t) (AliveInv cfg t) where
  checker := loop_checkerStop
  closing := fun _ => loop_modify fun _ => rfl
  closed := fun _ => loop_modify fun _ => rfl
  disconnected := loop_setState _
  connecting := loop_setState _
  handshakeReceived := loop_modify fun _ => rfl
  killed := fun _ => WebsocketTransport.keeps_killApp (fun _ => loop_modify fun _ => rfl)
    (loop_modify fun _ => rfl)
  restarts := loop_modify fun _ => rfl
  token := fun _ => loop_modify fun _ => rfl
  redirect := fun _ _ => loop_modify fun _ => rfl
  create := loop_createApp

/-- The thread that runs is a loop. -/
theorem KeepAlive.of_isLoop (h : AliveInv cfg t s P) (ht : isLoop t = true) :
    s.ws ≠ none ∧ s.greenlet ≠ none ∧ s.reconnectionHandler.isSome = true := by
  have hmem := Multiset.mem_cons_self (Label.ready t : Label Op Activity) P
  have hown : isOwn t = true := by
    cases t with
    | checkerRun => rfl
    | _ => cases ht
  exact ⟨(h.stored _ hmem hown).1, (h.stored _ hmem hown).2, h.handler _ hmem ht⟩

theorem loop_throwsRestart :
    ThrowsRestart (lasting cfg t) (AliveInv cfg t) (Retries t) cfg where
  block := fun _ _ _ _ h => h.relabel rfl
  resume := fun _ _ _ _ _ hinv hres =>
    ⟨hinv.relabel rfl, fun _ he hloop hrunning =>
      restartError_endures (hres.1.1.2 hloop hrunning) he⟩
  greenlet := fun _ _ h hnone hloop => absurd hnone (h.of_isLoop hloop).2.1

namespace WebsocketTransport

theorem loop_handleReconnect :
    Throws (lasting cfg t) (AliveInv cfg t) (Released t) (handleReconnect cfg) := by
  have hreport : Throws (lasting cfg t) (AliveInv cfg t) (Released t) reportReconnect := by
    refine Throws.bind (throws_of_keeps_modify (loop_modify fun _ => rfl)) fun _ =>
      Throws.perform (fun _ _ h => h.relabel rfl) fun s P r hinv hres => ?_
    refine ⟨hinv.relabel rfl, fun e hr hloop => ?_⟩
    -- no loop goes on behind an `on_reconnect` callback that has raised
    have hendures := hres.1.1.2 hloop
    rw [hr] at hendures
    simpa [endures] using hendures
  refine throws_handleReconnect (fun s P h hnone hloop => ?_) hreport (loop_setHandler _)
    (throws_reconnect loop_keepsRestart loop_throwsRestart) fun e s P h hI hF => ?_
  · have hsome := (h.of_isLoop hloop).2.2
    rw [hnone] at hsome
    cases hsome
  · have hfails : ∀ s', s'.running = s.running → (isLoop t = true → s.running = true → False) →
        Released t e s' P := by
      intro s' hs hfalse hloop
      rw [hs]
      simpa using hfalse hloop
    refine wp_deferReconnect (fun he => ⟨hI, ?_⟩) (fun _ hnone => ⟨hI, ?_⟩)
      fun handler _ hhandler s' hs' => ?_
    · rintro _ ⟨⟩
      refine hfails s rfl fun hloop hrunning => ?_
      rw [(hF hloop hrunning).1] at he
      cases he
    · rintro _ ⟨⟩ hloop
      have hsome := (hI.of_isLoop hloop).2.2
      rw [hnone] at hsome
      cases hsome
    · have hkept : AliveInv cfg t s' P := hI.congr (by subst hs'; simp [KeepAlive.view, hhandler])
      split
      · exact ⟨(loop_fork rfl) s' P h hkept, fun _ hr => by cases hr⟩
      · rename_i e' hnext
        refine ⟨hkept, ?_⟩
        rintro _ ⟨⟩
        refine hfails s' (by subst hs'; rfl) fun hloop hrunning => ?_
        have hhas := (hF hloop hrunning).2
        simp [hasNext, hhandler, hnext, Except.isOk, Except.toBool] at hhas

/-- A loop writes nothing but pings, and its writes fail only as a lost connection. -/
theorem loop_transmit {message : Outgoing} (hping : isLoop t = true → message = .hub .ping) :
    Throws (lasting cfg t) (AliveInv cfg t)
      (fun e _ _ => isLoop t = true → e.isConnectionLost = true) (transmit cfg message) := by
  have hws : Throws (lasting cfg t) (AliveInv cfg t)
      (fun e _ _ => isLoop t = true → e.isConnectionLost = true) ws := by
    refine Throws.get_bind fun s P h hI => ?_
    cases hstored : s.ws with
    | none =>
        refine ⟨hI, ?_⟩
        rintro _ ⟨⟩ hloop
        exact absurd hstored (hI.of_isLoop hloop).1
    | some app => exact ⟨hI, fun _ hr => by cases hr⟩
  have hwrite : ∀ app, Throws (lasting cfg t) (AliveInv cfg t)
      (fun e _ _ => isLoop t = true → e.isConnectionLost = true) (write app message) := by
    intro app
    have hsend : Throws (lasting cfg t) (AliveInv cfg t)
        (fun e _ _ => isLoop t = true → e.isConnectionLost = true)
        (perform (Op.wsSend app message)) := by
      refine Throws.perform (fun _ _ h => h.relabel rfl) fun s P r hinv hres => ?_
      refine ⟨hinv.relabel rfl, fun e hr hloop => ?_⟩
      subst hr
      have hexception : e.isException = true := by
        cases t with
        | checkerRun =>
            exact Hub.isException_of_rooted hres.1.2 rfl (fun _ => by simp) rfl
        | _ => cases hloop
      -- a write fails as a lost connection or by a kill, and no loop is killed
      rcases Hub.possible_write hres.2 with hlost | rfl
      · exact hlost
      · cases hexception
    refine Throws.bind (throws_of_keeps_modify (loop_modify fun _ => rfl)) fun _ =>
      Throws.tryCatch hsend fun e s P h hI hlost => ?_
    exact ⟨hI.congr rfl, fun e' hr => by cases hr; exact hlost⟩
  refine Throws.bind hws fun app => Throws.bind ?_ fun _ => Throws.bind (hwrite app) fun _ =>
    Throws.bind (throws_of_keeps_modify (loop_modify fun _ => rfl)) fun _ =>
      throws_of_keeps_modify (loop_setHandler _)
  refine Throws.ofExcept fun e he _ _ _ hloop => ?_
  obtain ⟨raw, hraw⟩ := cfg.protocol.encode_ping
  rw [hping hloop, hraw] at he
  cases he

theorem loop_send {message : Outgoing} (hping : isLoop t = true → message = .hub .ping) :
    Throws (lasting cfg t) (AliveInv cfg t) (Released t) (send cfg message) := by
  have hconnection : ∀ e, Throws (lasting cfg t) (AliveInv cfg t) (Released t)
      (connectionLost cfg e) := by
    intro e
    refine Throws.bind (throws_of_keeps_modify (loop_modify fun _ => rfl)) fun _ =>
      Throws.bind (throws_setState (loop_setState _)) fun _ => Throws.get_bind fun s P h hI => ?_
    have hlost : Keeps (lasting cfg t) (AliveInv cfg t) (reportLost e) :=
      keeps_reportLost (loop_perform _)
    split_ifs with hnone
    · have hno : isLoop t ≠ true := by
        intro hloop
        have hsome := (hI.of_isLoop hloop).2.2
        rw [Option.isNone_iff_eq_none.mp hnone] at hsome
        cases hsome
      refine wp_mono ?_ (hlost s P h hI)
      exact fun r s P h hI => ⟨hI, fun _ _ hloop => absurd hloop hno⟩
    · exact loop_handleReconnect s P h hI
  refine Throws.tryCatch (loop_transmit hping) fun e s P h hI hlost => ?_
  split_ifs with he
  · exact hconnection e s P h hI
  · refine ⟨hI, ?_⟩
    rintro _ ⟨⟩ hloop
    exact absurd (hlost hloop) he

/-! ## Messages -/

theorem loop_start : Keeps (lasting cfg t) (AliveInv cfg t) (Connection.start cfg) :=
  (throws_start loop_keepsRestart loop_throwsRestart).keeps

theorem loop_stop (site : StopSite) : Keeps (lasting cfg t) (AliveInv cfg t) (stop site) :=
  keeps_stop loop_checkerStop
    (keeps_closeWs (fun _ => loop_modify fun _ => rfl) (fun _ => loop_perform _)
      fun _ => loop_modify fun _ => rfl)
    (loop_setState _) (loop_modify fun _ => rfl)

theorem loop_reportEnd (site : CloseSite) :
    Keeps (lasting cfg t) (AliveInv cfg t) (reportEnd site) :=
  keeps_reportEnd (loop_modify fun _ => rfl) (loop_setState _)

theorem loop_onSocketError (site : CloseSite) :
    Keeps (lasting cfg t) (AliveInv cfg t) (onSocketError site) :=
  keeps_onSocketError (loop_reportEnd _) (loop_perform _)

/-- What is known when a frame is taken up: if its handshake is accepted, no stopped loop is
left. -/
def Vacant (cfg : Config) (raw : Raw) (s : State) (P : Multiset (Label Op Activity)) : Prop :=
  s.handshakeReceived = false → s.reconnectionHandler.isSome = true → s.running = false →
    ∀ response ∈ (cfg.protocol.decodeHandshake raw).toOption, isAccepted response.1 = true →
      loops P = 0

/-- A loop is there once a handshake was accepted: where none is, one is started. -/
theorem loop_handshakeDone {app : Nat} {h : List (Logged State Exc Op Op.Result)}
    (hI : AliveInv cfg (.runForever app)
      { s with history := { s.history with established := false } } P)
    (hvacant : s.reconnectionHandler.isSome = true → s.running = false → loops P = 0) :
    handshakeDone.wp (lasting cfg (.runForever app))
      (fun _ s P _ => AliveInv cfg (.runForever app) s P) s P h := by
  have hme := Multiset.mem_cons_self (Label.ready (.runForever app) : Label Op Activity) P
  have hstored : s.ws ≠ none ∧ s.greenlet ≠ none := hI.stored _ hme rfl
  unfold handshakeDone setHandler ConnectionStateChecker.start
  simp only [wp_bind, wp_get, wp_when]
  have hmap : s.reconnectionHandler.isSome = true → ∀ f : ReconnectionHandler → ReconnectionHandler,
      (s.reconnectionHandler.map f).isSome = true := fun hsome f => by simpa using hsome
  split_ifs with hhandler hrunning
  -- no loop is left where `running` is not set, so the new one is alone
  · have hnone := hvacant hhandler (by simpa using hrunning)
    have hone : loops (.ready (.runForever app) ::ₘ .ready .checkerRun ::ₘ P :
        Multiset (Label Op Activity)) = 1 := by
      rw [loops_cons, loops_cons, hnone]
      rfl
    exact
      { configured := (hmap hhandler _).trans (hhandler.symm.trans hI.configured)
        running := fun _ => hone
        idle := fun hr => by cases hr
        established := fun _ _ => rfl
        stored := fun _ _ _ => hstored
        handler := fun _ _ _ => hmap hhandler _ }
  · have hset : s.running = true := by simpa using hrunning
    exact
      { configured := (hmap hhandler _).trans (hhandler.symm.trans hI.configured)
        running := hI.running
        idle := hI.idle
        established := fun _ _ => hset
        stored := hI.stored
        handler := fun _ _ _ => hmap hhandler _ }
  · exact
      { hI with
        established := fun _ hsome => absurd hsome hhandler }

theorem loop_acceptHandshake {app app' : Nat} {h : List (Logged State Exc Op Op.Result)}
    (hI : AliveInv cfg (.runForever app) s P)
    (hvacant : s.reconnectionHandler.isSome = true → s.running = false → loops P = 0) :
    (acceptHandshake app').wp (lasting cfg (.runForever app))
      (fun _ s P _ => AliveInv cfg (.runForever app) s P) s P h := by
  unfold acceptHandshake setHandshakeReceived setState record
  simp only [wp_bind, wp_modify, wp_get, wp_when, decide_true, if_true]
  refine loop_handshakeDone ?_ hvacant
  exact ⟨hI.configured, hI.running, hI.idle, fun hr => (by cases hr), hI.stored, hI.handler⟩

theorem loop_rejectHandshake {app : Nat} :
    Keeps (lasting cfg (.runForever app)) (AliveInv cfg (.runForever app)) rejectHandshake := by
  refine keeps_rejectHandshake (Keeps.modify fun s P h => ?_) (loop_onSocketError _)
    (loop_stop _) (loop_setState _)
  exact ⟨h.configured, h.running, h.idle, fun hr => (by cases hr), h.stored, h.handler⟩

theorem loop_receive {app : Nat} {raw : Raw} :
    Leads (lasting cfg (.runForever app))
      (fun s P => AliveInv cfg (.runForever app) s P ∧ Vacant cfg raw s P)
      (AliveInv cfg (.runForever app)) (receive cfg app raw) := by
  rintro s P h ⟨hI, hvacant⟩
  refine wp_receive rfl (hI.congr rfl) (fun hreceived response hdecode => ?_)
    (keeps_reportOpen (loop_setState _) (loop_modify fun _ => rfl) (loop_perform _))
  unfold judge
  split_ifs with haccepted
  · refine loop_acceptHandshake (hI.congr rfl) fun hhandler hrunning => ?_
    exact hvacant hreceived hhandler hrunning response (by rw [hdecode]; rfl) haccepted
  · exact loop_rejectHandshake _ P h (hI.congr rfl)

/-- Every other message leaves the loops alone, or stops them. -/
theorem loop_messages (messages : List Message) :
    Keeps (lasting cfg t) (AliveInv cfg t) (Connection.onMessage messages) := by
  have hdispatch : Connection.KeepsDispatch (lasting cfg t) (AliveInv cfg t) :=
    { calls := ⟨fun _ => loop_modify fun _ => rfl, fun _ _ => loop_perform _⟩
      dispatched := fun _ => loop_modify fun _ => rfl
      unregister := fun _ => loop_modify fun _ => rfl
      event := fun _ _ => loop_perform _
      error := fun _ => loop_perform _ }
  exact Connection.keeps_onMessage (fun _ => Connection.keeps_dispatch hdispatch) (loop_stop _)

end WebsocketTransport

/-! ## Runs -/

theorem loop_runForever (app : Nat) :
    Keeps (lasting cfg (.runForever app)) (AliveInv cfg (.runForever app))
      (WebSocketApp.runForever cfg app) := by
  have hsilent : Keeps (lasting cfg (.runForever app)) (AliveInv cfg (.runForever app))
      (setApp app fun a => { a with silent := true }) := loop_modify fun _ => rfl
  have hended : Keeps (lasting cfg (.runForever app)) (AliveInv cfg (.runForever app))
      (setApp app fun a => { a with ended := true }) := loop_modify fun _ => rfl
  have hcallback : ∀ {isOver p}, Keeps (lasting cfg (.runForever app))
      (AliveInv cfg (.runForever app)) p → Keeps (lasting cfg (.runForever app))
        (AliveInv cfg (.runForever app)) (WebSocketApp.callback app isOver p) :=
    fun hp => WebSocketApp.keeps_callback hp (WebsocketTransport.loop_onSocketError _)
  have hround : WebSocketApp.KeepsRound (lasting cfg (.runForever app))
      (AliveInv cfg (.runForever app)) cfg app :=
    { block := fun _ _ h => h.relabel rfl
      resume := fun _ _ _ h _ => h.relabel rfl
      opened := fun s P h hinv _ => WebSocketApp.keeps_handleOpened (loop_modify fun _ => rfl)
        (hcallback (WebsocketTransport.loop_send fun hloop => by cases hloop).keeps)
        s P h (hinv.relabel rfl)
      message := fun raw s P h hinv hres => WebSocketApp.leads_handleMessage
        WebsocketTransport.loop_receive WebsocketTransport.loop_messages
        (WebsocketTransport.loop_onSocketError _) s P h
        ⟨hinv.relabel rfl, hres.1.1.1 raw rfl⟩
      silent := hsilent
      error := hcallback (WebsocketTransport.loop_onSocketError _) }
  exact WebSocketApp.keeps_runForever (loop_modify fun _ => rfl) hended
    (WebSocketApp.keeps_round hround)
    (WebSocketApp.keeps_teardown hsilent (hcallback (WebsocketTransport.keeps_onClosed
      (WebsocketTransport.loop_reportEnd _) (loop_perform _))) hended)

theorem loop_activities (ht : isLoop t = false) :
    KeepsActivities (lasting cfg t) (AliveInv cfg t) cfg where
  send := fun _ => (WebsocketTransport.loop_send fun hloop => by simp [ht] at hloop).keeps
  auth := loop_perform _
  sleep := fun _ => loop_perform _
  acquire := fun _ => loop_perform _
  register := fun _ =>
    Connection.keeps_register (loop_modify fun _ => rfl) (loop_modify fun _ => rfl)
  modify := fun hf => loop_modify fun s => by
    have hs := hf s
    have hhandler := congrArg (·.reconnectionHandler.isSome) hs
    have hview := congrArg KeepAlive.view hs
    simpa [KeepAlive.view, offActivities] using hview

/-- A round of a loop: where it ends, it was asked to. -/
theorem loop_checkerRun {h : List (Logged State Exc Op Op.Result)}
    (hI : AliveInv cfg .checkerRun s P) :
    (ConnectionStateChecker.run cfg).wp (lasting cfg .checkerRun)
      (Ends (KeepAlive cfg) (fun _ _ _ _ => True) .checkerRun) s P h := by
  have hsleep : Throws (lasting cfg .checkerRun) (AliveInv cfg .checkerRun)
      (Released .checkerRun) (sleep 1) := by
    refine Throws.perform (fun _ _ h => h.relabel rfl) fun s P r hinv hres => ?_
    refine ⟨hinv.relabel rfl, ?_⟩
    rintro e rfl -
    have hexception := Hub.isException_of_rooted hres.1.2 rfl (fun _ => by simp) rfl
    rw [Hub.possible_sleep_error hres.2] at hexception
    cases hexception
  have hcheck : Throws (lasting cfg .checkerRun) (AliveInv cfg .checkerRun)
      (Released .checkerRun) (ConnectionStateChecker.check cfg) :=
    Throws.bind hsleep fun _ => Throws.bind .get fun _ => Throws.when fun _ =>
      WebsocketTransport.loop_send fun _ => rfl
  unfold ConnectionStateChecker.run
  rw [wp_bind, wp_get]
  by_cases hrunning : s.running = true
  · simp only [hrunning, if_true, wp_bind]
    refine wp_mono ?_ (hcheck s P h hI)
    rintro (e | _) s P h ⟨hI, hreleased⟩
    · exact ⟨trivial, hI.tail (hreleased e rfl)⟩
    · exact ⟨trivial, hI⟩
  · simp only [hrunning]
    exact ⟨trivial, hI.tail fun _ => by simpa using hrunning⟩

theorem loop_body (t : Activity) {h : List (Logged State Exc Op Op.Result)}
    (hI : KeepAlive cfg s (.ready t ::ₘ P)) :
    (Hub.body cfg t).wp (lasting cfg t) (Ends (KeepAlive cfg) (fun _ _ _ _ => True) t) s P h := by
  by_cases hloop : isLoop t = true
  · cases t with
    | checkerRun => exact loop_checkerRun hI
    | _ => cases hloop
  · have ht : isLoop t = false := by simpa using hloop
    have hkeeps : Keeps (lasting cfg t) (AliveInv cfg t) (Hub.body cfg t) := by
      by_cases hstart : t = .start
      · subst hstart
        exact keeps_once (Keeps.bind (loop_modify fun _ => rfl) fun _ =>
          WebsocketTransport.loop_start)
      by_cases hstop : t = .stop
      · subst hstop
        exact keeps_once (Keeps.finally_ (WebsocketTransport.loop_stop _)
          (loop_modify fun _ => rfl))
      · refine (loop_activities ht).body hstart hstop fun app happ => ?_
        subst happ
        exact loop_runForever app
    exact ends_of_ready (fun s P hready => hready.tail fun hready' => absurd hready' hloop)
      (hkeeps s P h hI)

theorem loop_proof :
    Proof (hub cfg) ((Lasting cfg).and (hub cfg).rooted) (KeepAlive cfg) fun _ _ _ _ => True := by
  refine Hub.proof ⟨fun _ _ _ h => h.congr rfl, fun _ _ _ _ h => h, fun _ _ _ _ _ _ h => h⟩
    ?_ ?_ fun s P t h _ => loop_body t h
  · refine ⟨by simp [State.new], fun hr => (by cases hr), fun _ => Nat.zero_le _,
      fun hr => (by cases hr), fun l hl => ?_, fun l hl => ?_⟩
    · cases Multiset.notMem_zero l hl
    · cases Multiset.notMem_zero l hl
  · intro s P t h harrives _
    have hpublic := Hub.isPublic_of_arrives harrives
    refine h.cons (l := .ready t) ?_ fun hown => ?_
    · cases t with
      | checkerRun => cases hpublic
      | _ => rfl
    · cases t with
      | runForever app => cases hpublic
      | checkerRun => cases hpublic
      | _ => cases hown

/-- Where no handshake is accepted while a stopped loop is left, and no running loop ends with
an exception: as long as the last handshake was accepted and not stopped since, there is
exactly one loop, if a reconnection handler is configured. -/
theorem lasting_loop {w : World State Exc Op Op.Result Activity}
    (h : (hub cfg).Reach (Lasting cfg) w) (hconfigured : cfg.reconnection ≠ none)
    (hestablished : w.shared.history.established = true) : loops w.labels = 1 := by
  have halive : KeepAlive cfg w.shared w.labels := (loop_proof.sound h.rooted).holds
  have hsome : w.shared.reconnectionHandler.isSome = true := by
    rw [halive.configured]
    exact Option.isSome_iff_ne_none.mpr hconfigured
  exact halive.running (halive.established hestablished hsome)

/-- Otherwise there are two: the connection is stopped and started again, and its second
handshake is accepted, within one sleep of the loop.  Or there is none: the `on_reconnect`
callback raises when a ping fails, and the next handshake is accepted. -/
theorem wrong_loops :
    (∃ w, (hub (.direct (some (.raw 5 none)))).Reach .any w ∧
      w.shared.history.established = true ∧ loops w.labels = 2) ∧
    ∃ w, (hub (.direct (some (.raw 5 none)))).Reach .any w ∧
      w.shared.history.established = true ∧ loops w.labels = 0 := by
  have htwo := (hub (.direct (some (.raw 5 none)))).reach_after [.fork .start, .start 0, .start 1,
    .answer 1 (.happened .opened), .answer 1 .done, .start 1,
    .answer 1 (.happened (.message (.text "\x7b\x7d\x1e"))), .start 1, .start 2,
    .fork .stop, .start 3, .answer 3 .done, .fork .start, .start 4, .start 5,
    .answer 5 (.happened .opened), .answer 5 .done, .start 5,
    .answer 5 (.happened (.message (.text "\x7b\x7d\x1e")))] .start rfl
  have hnone := (hub (.direct (some (.raw 5 none)))).reach_after [.fork (.onReconnect true),
    .start 0, .fork .start, .start 1, .start 2, .answer 2 (.happened .opened), .answer 2 .done,
    .start 2, .answer 2 (.happened (.message (.text "\x7b\x7d\x1e"))), .start 2, .start 3,
    .fork (.clock 16), .start 4, .answer 3 .done, .answer 3 (.raised .osError),
    .answer 3 (.raised .typeError)] .start rfl
  exact ⟨⟨_, htwo, rfl, rfl⟩, _, hnone, rfl, rfl⟩

/-- A loop that pings once, while its connection is stopped and started again behind its
end. -/
theorem lasting_loop_restart :
    ∃ w, (hub (.direct (some (.raw 5 none)))).Reach (Lasting (.direct (some (.raw 5 none)))) w ∧
      w.shared.history.accepted = [0, 1] ∧ loops w.labels = 1 := by
  have h := (hub (.direct (some (.raw 5 none)))).reach_within
    (Lasting (.direct (some (.raw 5 none)))) [.fork .start, .start 0, .start 1,
    .answer 1 (.happened .opened), .answer 1 .done, .start 1,
    .answer 1 (.happened (.message (.text "\x7b\x7d\x1e"))), .start 1, .start 2,
    .fork .stop, .start 3, .answer 3 .done, .answer 2 .done, .start 2, .fork .start, .start 4,
    .start 5, .answer 5 (.happened .opened), .answer 5 .done, .start 5,
    .answer 5 (.happened (.message (.text "\x7b\x7d\x1e")))] .start rfl
  exact ⟨_, h, rfl, lasting_loop h (by simp [Config.direct]) rfl⟩

end GeventSignalR
