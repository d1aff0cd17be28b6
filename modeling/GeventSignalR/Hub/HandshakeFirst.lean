import GeventSignalR.Hub.Restart

/-!
# The handshake comes first

`stream`, the methods of a `Subject`, the keep-alive loop and `deferred_reconnect` write without
asking whether the connection is ready, and `Connection.send` asks only whether it is not
disconnected.

* `Ready` are the steps that write only where a handshake was accepted on the websocket.
* `Introduced` is the invariant: every websocket gets the handshake request first, and nothing
  else before its response.
-/

namespace GeventSignalR

open Coop Coop.Prog

/-- There is a websocket, and a handshake response without error was evaluated on it. -/
def isReady (s : State) : Bool :=
  s.ws.any s.history.accepted.contains

/-- What is written now does not come before the handshake. -/
def Admits (s : State) : Prop :=
  s.ws.isSome = true → isReady s = true

/-- Nobody holds the lock of the subject. -/
def isFree (s : State) (subject : Nat) : Bool :=
  s.subjects[subject]?.any fun object => !object.locked

/-- The subject was passed to a `send`. -/
def isAimed (s : State) (subject : Nat) : Bool :=
  s.subjects[subject]?.any fun object => object.target.isSome

/-- A call of `Connection.send`. -/
def isSendCall : Activity → Bool
  | .send .. => true
  | _ => false

/-- A call of the user writes before it blocks. -/
def writesFirst (s : State) : Activity → Bool
  | .stream .. => true
  | .next subject _ | .complete subject => isFree s subject && isAimed s subject
  | _ => false

/-- A thread writes when its operation returns. -/
def writesNext (cfg : Config) (s : State) (t : Activity) : (op : Op) → Except Exc op.Result → Bool
  | .auth .send, .ok _ =>
      match t with
      | .send _ (.subject subject) .. => isFree s subject
      | _ => true
  | .acquire subject, .ok _ => isAimed s subject
  | .sleep _, .ok _ =>
      match t with
      | .checkerRun => cfg.keepAliveInterval < s.now - s.lastMessage
      | _ => !s.connectionAlive
  | _, _ => false

/-- The user calls `send` while the connection is disconnected or ready; and where a call of the
user, the keep-alive loop or `deferred_reconnect` goes on to write a message, the handshake on
the websocket was accepted, or there is no websocket. -/
def Ready (cfg : Config) : Cond State Exc Op Op.Result Activity where
  fork := fun _ _ _ => True
  start := fun s _ t =>
    (isSendCall t = true → WebsocketTransport.isRunning s = true → isReady s = true) ∧
      (writesFirst s t = true → Admits s)
  resume := fun s _ t op r => writesNext cfg s t op r = true → Admits s

instance (s : State) : Decidable (Admits s) :=
  inferInstanceAs (Decidable (_ → _))

instance (cfg : Config) : System.Decides (Ready cfg) where
  fork := fun _ _ _ => isTrue trivial
  start := fun _ _ _ => inferInstanceAs (Decidable (_ ∧ _))
  resume := fun _ _ _ _ _ => inferInstanceAs (Decidable (_ → _))

/-- The open event of the websocket was delivered. -/
def isOpened (s : State) (app : Nat) : Bool :=
  s.apps[app]?.any (·.opened)

/-- What was handed to the websockets. -/
structure Recorded (cfg : Config) (s : State) : Prop where
  /-- A message is the handshake request, or comes behind an accepted response. -/
  handed : ∀ x ∈ s.history.handed,
    x.message = .handshake cfg.protocol.handshakeMessage ∨ x.accepted = true
  first : ∀ app x, s.history.handed.find? (·.app == app) = some x →
    x.message = .handshake cfg.protocol.handshakeMessage
  known : ∀ app ∈ s.history.accepted, app < s.apps.length

/-- The stored websocket got a message before it was of any use. -/
structure Introduced (cfg : Config) (s : State) : Prop extends Recorded cfg s where
  begun : ∀ app, s.ws = some app → app ∈ s.history.accepted ∨ isOpened s app = true →
    ∃ x ∈ s.history.handed, x.app = app

variable {cfg : Config} {t : Activity} {s s' : State} {P : Multiset (Label Op Activity)}
  {h : List (Logged State Exc Op Op.Result)}

/-- What the proof assumes. -/
abbrev ready (cfg : Config) (t : Activity) : HubRely :=
  (hub cfg).rely (Ready cfg) (fun s _ => Introduced cfg s) t

/-- The invariant as a property of programs. -/
abbrev IntroducedInv (cfg : Config) : HubInv := fun s _ => Introduced cfg s

/-- A message can be written as well. -/
abbrev Admitted (cfg : Config) : HubInv := fun s _ => Introduced cfg s ∧ Admits s

/-! ## Leaves -/

/-- What the invariant reads of the state. -/
def handedView (s : State) : Option Nat × List Bool × List Handed × List Nat :=
  (s.ws, s.apps.map (·.opened), s.history.handed, s.history.accepted)

theorem isOpened_congr (hs : s'.apps.map (·.opened) = s.apps.map (·.opened)) (app : Nat) :
    isOpened s' app = isOpened s app := by
  have hany : ∀ s : State, isOpened s app = (s.apps.map (·.opened))[app]?.any id := by
    intro s
    rw [List.getElem?_map]
    unfold isOpened
    cases s.apps[app]? <;> rfl
  rw [hany, hs, ← hany]

theorem lt_of_isOpened {app : Nat} (h : isOpened s app = true) : app < s.apps.length := by
  by_contra hlength
  have hmissing : s.apps[app]? = none := List.getElem?_eq_none (by omega)
  simp [isOpened, hmissing] at h

theorem Recorded.congr (h : Recorded cfg s) (hlength : s'.apps.length = s.apps.length)
    (hhanded : s'.history.handed = s.history.handed)
    (haccepted : s'.history.accepted = s.history.accepted) : Recorded cfg s' := by
  constructor
  · rw [hhanded]
    exact h.handed
  · rw [hhanded]
    exact h.first
  · rw [haccepted, hlength]
    exact h.known

theorem Introduced.congr (h : Introduced cfg s) (hs : handedView s' = handedView s) :
    Introduced cfg s' := by
  simp only [handedView, Prod.mk.injEq] at hs
  obtain ⟨hws, happs, hhanded, haccepted⟩ := hs
  have hlength : s'.apps.length = s.apps.length := by
    simpa using congrArg List.length happs
  refine ⟨h.toRecorded.congr hlength hhanded haccepted, ?_⟩
  intro app hstored huse
  rw [hws] at hstored
  rw [haccepted, isOpened_congr happs] at huse
  rw [hhanded]
  exact h.begun app hstored huse

/-- A message is handed to the stored websocket. -/
theorem Recorded.handing {app : Nat} {message : Outgoing} (h : Recorded cfg s)
    (hws : s.ws = some app)
    (hmessage : message = .handshake cfg.protocol.handshakeMessage ∨
      app ∈ s.history.accepted ∧ ∃ x ∈ s.history.handed, x.app = app) :
    Introduced cfg (WebsocketTransport.handing app message s) := by
  refine ⟨⟨?_, ?_, h.known⟩, ?_⟩
  · intro x hx
    rcases List.mem_append.mp hx with hx | hx
    · exact h.handed x hx
    · rw [List.mem_singleton.mp hx]
      rcases hmessage with hmessage | ⟨haccepted, -⟩
      · exact .inl hmessage
      · exact .inr (List.contains_iff_mem.mpr haccepted)
  · intro other x hx
    rw [List.find?_append, Option.or_eq_some_iff] at hx
    rcases hx with hx | ⟨hnone, hx⟩
    · exact h.first other x hx
    · -- nothing was handed to this websocket before
      obtain ⟨hother, hmem⟩ := List.find?_eq_some_iff_append.mp hx
      rcases hmessage with hmessage | ⟨-, y, hy, happ⟩
      · have hlast := List.mem_singleton.mp (List.mem_of_find?_eq_some hx)
        rw [hlast]
        exact hmessage
      · have hlast := List.mem_singleton.mp (List.mem_of_find?_eq_some hx)
        rw [hlast] at hother
        have hnever := List.find?_eq_none.mp hnone y hy
        simp only [beq_iff_eq] at hother hnever
        exact absurd (happ.trans hother) hnever
  · intro stored hstored _
    have hsame : stored = app := by
      rw [hws] at hstored
      exact (Option.some.inj hstored).symm
    exact ⟨_, List.mem_append_right _ (List.mem_singleton_self _), hsame.symm⟩

/-- The stored websocket has been introduced where its handshake was accepted. -/
theorem Introduced.admitted {app : Nat} (h : Introduced cfg s) (hadmits : Admits s)
    (hws : s.ws = some app) :
    app ∈ s.history.accepted ∧ ∃ x ∈ s.history.handed, x.app = app := by
  have hready : isReady s = true := hadmits (by simp [hws])
  have haccepted : app ∈ s.history.accepted := by
    simpa [isReady, hws] using hready
  exact ⟨haccepted, h.begun app hws (.inl haccepted)⟩

theorem introduced_modify {f : State → State} (hf : ∀ s, handedView (f s) = handedView s) :
    Keeps (ready cfg t) (IntroducedInv cfg) (modify f : Hub Unit) :=
  Keeps.modify fun s _ h => h.congr (hf s)

theorem introduced_perform (op : Op) : Keeps (ready cfg t) (IntroducedInv cfg) (perform op) :=
  Keeps.perform (fun _ _ h => h) fun _ _ _ h _ => h

theorem introduced_fork (t' : Activity) :
    Keeps (ready cfg t) (IntroducedInv cfg) (fork t' : Hub Unit) :=
  Keeps.fork fun _ _ h => h

theorem introduced_setApp {app : Nat} {f : App → App} (hf : ∀ a, (f a).opened = a.opened) :
    Keeps (ready cfg t) (IntroducedInv cfg) (setApp app f) :=
  introduced_modify fun s => by simp only [handedView, map_modify hf]

namespace WebsocketTransport

theorem introduced_setHandler (f : ReconnectionHandler → ReconnectionHandler) :
    Keeps (ready cfg t) (IntroducedInv cfg) (setHandler f) :=
  introduced_modify fun _ => rfl

theorem introduced_setState (value : ConnectionState) :
    Keeps (ready cfg t) (IntroducedInv cfg) (setState value) :=
  Keeps.bind (introduced_modify fun _ => rfl) fun _ =>
    Keeps.when fun _ => introduced_modify fun _ => rfl

/-! ## The transport -/

theorem introduced_stop (site : StopSite) :
    Keeps (ready cfg t) (IntroducedInv cfg) (stop site) := by
  apply keeps_stop
  · exact introduced_modify fun _ => rfl
  · exact keeps_closeWs (fun _ => introduced_setApp fun _ => rfl) (fun _ => introduced_perform _)
      fun _ => introduced_setApp fun _ => rfl
  · exact introduced_setState _
  · exact introduced_modify fun _ => rfl

/-- A new websocket is of no use yet. -/
theorem introduced_createApp : Keeps (ready cfg t) (IntroducedInv cfg) createApp := by
  apply Keeps.get_bind
  intro s P h hI
  have hrest : Keeps (ready cfg t) (IntroducedInv cfg)
      (fork (.runForever s.apps.length) >>= fun _ =>
        modify fun s' => { s' with greenlet := some s.apps.length } : Hub Unit) :=
    Keeps.bind (introduced_fork _) fun _ => introduced_modify fun _ => rfl
  refine hrest _ P h ⟨⟨hI.handed, hI.first, ?_⟩, ?_⟩
  · intro app happ
    have hlt := hI.known app happ
    simp only [List.length_append, List.length_singleton]
    omega
  · intro app hstored huse
    have happ : s.apps.length = app := Option.some.inj hstored
    subst happ
    rcases huse with haccepted | hopened
    · exact absurd (hI.known _ haccepted) (by omega)
    · simp [isOpened, newApp] at hopened

theorem introduced_start : Keeps (ready cfg t) (IntroducedInv cfg) (Connection.start cfg) := by
  apply Connection.keeps_start
  · exact Connection.keeps_refreshTokenMaybe (introduced_perform _)
      fun _ => introduced_modify fun _ => rfl
  · exact keeps_start (keeps_negotiate (fun _ _ => introduced_perform _)
      fun _ _ => introduced_modify fun _ => rfl) (introduced_setState _) introduced_createApp

theorem introduced_handleReconnect :
    Keeps (ready cfg t) (IntroducedInv cfg) (handleReconnect cfg) := by
  have hkill : Keeps (ready cfg t) (IntroducedInv cfg) killGreenlet :=
    keeps_killGreenlet (fun _ => keeps_killApp (fun _ => introduced_modify fun _ => rfl)
      (introduced_setApp fun _ => rfl)) fun _ => introduced_perform _
  have hreconnect : Keeps (ready cfg t) (IntroducedInv cfg) (reconnect cfg) :=
    keeps_reconnect (keeps_stopLost (introduced_stop _) (introduced_setState _)) hkill
      (introduced_modify fun _ => rfl) (introduced_modify fun _ => rfl) introduced_start
  apply keeps_handleReconnect
  · exact keeps_reportReconnect (introduced_modify fun _ => rfl) (introduced_perform _)
  · exact keeps_setReconnecting introduced_setHandler
  · exact hreconnect
  · exact fun e => keeps_deferReconnect (keeps_nextSleepTime introduced_setHandler
      fun _ => introduced_modify fun _ => rfl) fun _ => introduced_fork _

/-- A message that may be handed to the stored websocket. -/
theorem introduced_send {message : Outgoing} (hnone : s.ws = none → Introduced cfg s)
    (hencode : ∀ e, cfg.protocol.encode message = .error e → Introduced cfg s)
    (hhanding : ∀ app, s.ws = some app → Introduced cfg (handing app message s)) :
    (send cfg message).wp (ready cfg t) (fun _ s _ _ => Introduced cfg s) s P h := by
  have hwrite : ∀ app, Keeps (ready cfg t) (IntroducedInv cfg)
      ((perform (Op.wsSend app message)).tryCatch fun e => do
        setApp app fun a => { a with lost := a.lost || e.isConnectionLost }
        (raise e : Hub Unit)) := fun app =>
    Keeps.tryCatch (introduced_perform _) fun _ =>
      Keeps.bind (introduced_setApp fun _ => rfl) fun _ => .raise _
  have hwritten : Keeps (ready cfg t) (IntroducedInv cfg)
      (modify (fun s => { s with lastMessage := s.now }) >>= fun _ => setHandler (·.reset)) :=
    Keeps.bind (introduced_modify fun _ => rfl) fun _ => introduced_setHandler _
  have htransmit : (transmit cfg message).wp (ready cfg t) (fun _ s _ _ => Introduced cfg s) s P h := by
    unfold transmit ws write record
    simp only [wp_bind, wp_get]
    cases hstored : s.ws with
    | none => exact hnone hstored
    | some app =>
        simp only [Option.elim_some, wp_pure, wp_ofExcept]
        cases hraw : cfg.protocol.encode message with
        | error e => exact hencode e hraw
        | ok raw =>
            simp only [wp_modify]
            refine wp_mono ?_ (hwrite app _ P h (hhanding app hstored))
            rintro (e | _) s P h hI
            · exact hI
            · have hend := hwritten s P h hI
              rwa [wp_bind] at hend
  have hlost : ∀ e, Keeps (ready cfg t) (IntroducedInv cfg)
      (if e.isConnectionLost then connectionLost cfg e else raise e) := fun e =>
    Keeps.ite (fun _ => keeps_connectionLost (introduced_modify fun _ => rfl)
      (introduced_setState _) (introduced_perform _) introduced_handleReconnect) fun _ => .raise _
  unfold send
  rw [wp_tryCatch]
  refine wp_mono ?_ htransmit
  rintro (e | _) s P h hI
  · exact hlost e s P h hI
  · exact hI

/-- A message behind the handshake. -/
theorem introduced_sendHub (message : Message) :
    Leads (ready cfg t) (Admitted cfg) (IntroducedInv cfg) (send cfg (.hub message)) := by
  rintro s P h ⟨hI, hadmits⟩
  apply introduced_send
  · exact fun _ => hI
  · exact fun _ _ => hI
  · exact fun app hws => hI.toRecorded.handing hws (.inr (hI.admitted hadmits hws))

theorem introduced_onSocketError (site : CloseSite) :
    Keeps (ready cfg t) (IntroducedInv cfg) (onSocketError site) :=
  keeps_onSocketError (keeps_reportEnd (introduced_modify fun _ => rfl) (introduced_setState _))
    (introduced_perform _)

/-- A response is accepted on a websocket that is open. -/
theorem introduced_acceptHandshake {app : Nat} :
    Leads (ready cfg t) (fun s _ => Introduced cfg s ∧ isOpened s app = true) (IntroducedInv cfg)
      (acceptHandshake app) := by
  have hopen : ∀ {f : State → State}, (∀ s, handedView (f s) = handedView s) →
      Keeps (ready cfg t) (fun s _ => Introduced cfg s ∧ isOpened s app = true)
        (modify f : Hub Unit) := by
    intro f hf
    apply Keeps.modify
    rintro s P ⟨hI, hopened⟩
    have happs : (f s).apps.map (·.opened) = s.apps.map (·.opened) :=
      congrArg (fun v => v.2.1) (hf s)
    exact ⟨hI.congr (hf s), (isOpened_congr happs app).trans hopened⟩
  have hstate : Keeps (ready cfg t) (fun s _ => Introduced cfg s ∧ isOpened s app = true)
      (setState .connected) :=
    Keeps.bind (hopen fun _ => rfl) fun _ => Keeps.when fun _ => hopen fun _ => rfl
  have hflag : Keeps (ready cfg t) (fun s _ => Introduced cfg s ∧ isOpened s app = true)
      (setHandshakeReceived true) := hopen fun _ => rfl
  have hdone : Keeps (ready cfg t) (IntroducedInv cfg) handshakeDone :=
    keeps_handshakeDone introduced_setHandler
      (Keeps.bind (introduced_modify fun _ => rfl) fun _ => introduced_fork _)
  apply Leads.bind (fun _ _ hI => hI.1) hflag
  intro _
  apply Leads.bind (fun _ _ hI => hI.1) hstate
  intro _
  apply Leads.get_bind
  rintro s P h ⟨hI, hopened⟩
  -- the accepted websocket is in use already, since it was opened
  refine hdone _ P h ⟨⟨hI.handed, hI.first, ?_⟩, ?_⟩
  · intro other hother
    rcases List.mem_append.mp hother with hother | hother
    · exact hI.known other hother
    · rw [List.mem_singleton.mp hother]
      exact lt_of_isOpened hopened
  · intro stored hstored huse
    apply hI.begun stored hstored
    rcases huse with hmem | huse
    · rcases List.mem_append.mp hmem with hmem | hmem
      · exact .inl hmem
      · rw [List.mem_singleton.mp hmem]
        exact .inr hopened
    · exact .inr huse

/-- A frame of a websocket that is open. -/
theorem introduced_receive {app : Nat} {raw : Raw} (hI : Introduced cfg s)
    (hopened : isOpened s app = true) :
    (receive cfg app raw).wp (ready cfg t) (fun _ s _ _ => Introduced cfg s) s P h := by
  have hreject : Keeps (ready cfg t) (IntroducedInv cfg) rejectHandshake :=
    keeps_rejectHandshake (introduced_modify fun _ => rfl) (introduced_onSocketError _)
      (introduced_stop _) (introduced_setState _)
  have hopen : Keeps (ready cfg t) (IntroducedInv cfg) reportOpen :=
    keeps_reportOpen (introduced_setState _) (introduced_modify fun _ => rfl) (introduced_perform _)
  apply wp_receive (I := IntroducedInv cfg) rfl (hI.congr rfl) _ hopen
  intro _ response _
  unfold judge
  split_ifs
  · exact introduced_acceptHandshake _ P h ⟨hI.congr rfl, hopened⟩
  · exact hreject _ P h (hI.congr rfl)

end WebsocketTransport

/-! ## Those who write -/

/-- A ping of the keep-alive loop. -/
theorem introduced_checker :
    Keeps (ready cfg .checkerRun) (IntroducedInv cfg) (ConnectionStateChecker.run cfg) := by
  have hcheck : Keeps (ready cfg .checkerRun) (IntroducedInv cfg)
      (ConnectionStateChecker.check cfg) := by
    intro s P h hI
    unfold ConnectionStateChecker.check sleep
    rw [wp_bind, wp_perform]
    refine ⟨hI, ?_⟩
    rintro s P (e | _) hI hres
    · exact hI
    · simp only [wp_bind, wp_get, wp_when]
      split_ifs with hdue
      · exact WebsocketTransport.introduced_sendHub .ping s P _ ⟨hI, hres.1 hdue⟩
      · exact hI
  exact Keeps.bind .get fun _ => Keeps.ite (fun _ => Keeps.bind hcheck fun _ => .pure _)
    fun _ => .pure _

/-- A ping of `deferred_reconnect`. -/
theorem introduced_deferredReconnect (sleepTime : Int) :
    Keeps (ready cfg (.deferredReconnect sleepTime)) (IntroducedInv cfg)
      (WebsocketTransport.deferredReconnect cfg sleepTime) := by
  have hping : Keeps (ready cfg (.deferredReconnect sleepTime)) (IntroducedInv cfg)
      (WebsocketTransport.pingLater cfg sleepTime) := by
    intro s P h hI
    unfold WebsocketTransport.pingLater sleep
    rw [wp_bind, wp_perform]
    refine ⟨hI, ?_⟩
    rintro s P (e | _) hI hres
    · exact hI
    · simp only [wp_bind, wp_get, wp_when]
      split_ifs with hdue
      · exact WebsocketTransport.introduced_sendHub .ping s P _ ⟨hI, hres.1 hdue⟩
      · exact hI
  exact Keeps.tryCatch hping fun _ => Keeps.ite
    (fun _ => Keeps.bind (WebsocketTransport.keeps_setReconnecting
      WebsocketTransport.introduced_setHandler) fun _ => introduced_modify fun _ => rfl)
    fun _ => .raise _

/-- The lock changes no target. -/
theorem isAimed_lock (s : State) (n : Nat) (turns : List Turn) :
    isAimed { s with
      subjects := s.subjects.modify n Subject.lock
      history := { s.history with turns := turns } } n = isAimed s n := by
  cases hobject : s.subjects[n]? <;> simp [isAimed, hobject, Subject.lock]

/-- Under the lock a message is handed only for a `Subject` with a target. -/
theorem introduced_serve {n : Nat} (message : Subject → Message) (hI : Introduced cfg s)
    (haimed : isAimed s n = true → Admits s) :
    (Subject.connection n >>= fun _ => Subject.object n >>= fun object =>
      Subject.send cfg n (message object)).wp (ready cfg t) (fun _ s _ _ => Introduced cfg s)
        s P h := by
  unfold Subject.connection Subject.object
  simp only [wp_bind, wp_get]
  cases hobject : s.subjects[n]? with
  | none => exact hI
  | some object =>
      simp only [Option.elim_some, wp_pure, wp_when]
      split_ifs with hnone
      · exact hI
      · have hsome : isAimed s n = true := by
          cases htarget : object.target with
          | none => simp [htarget] at hnone
          | some target => simp [isAimed, hobject, htarget]
        simp only [hobject, Option.elim_some, wp_pure]
        exact WebsocketTransport.introduced_sendHub _ _ P h ⟨hI.congr rfl, haimed hsome⟩

/-- One turn takes the lock, serves the message and gives the lock back. -/
theorem introduced_turn {n : Nat} (message : Subject → Message) (hI : Introduced cfg s)
    (haimed : isAimed s n = true → Admits s) :
    (Subject.takeLock n >>= fun _ => (Subject.connection n >>= fun _ => Subject.object n >>=
      fun object => Subject.send cfg n (message object)).finally_
        (Subject.set n Subject.unlock)).wp (ready cfg t) (fun _ s _ _ => Introduced cfg s)
          s P h := by
  unfold Subject.takeLock Subject.set
  rw [wp_bind, wp_bind, wp_modify, wp_modify, wp_finally]
  refine wp_mono ?_ (introduced_serve message (hI.congr rfl)
    fun h => haimed ((isAimed_lock s n _).symm.trans h))
  rintro (e | _) s P h hI
  · exact hI.congr rfl
  · exact hI.congr rfl

/-- A message of a subject that is free only where it can be written. -/
theorem introduced_withLock {n : Nat} (message : Subject → Message) (hI : Introduced cfg s)
    (hfree : isFree s n = true → isAimed s n = true → Admits s) :
    (Subject.withLock n do
      Subject.connection n
      let object ← Subject.object n
      Subject.send cfg n (message object)).wp (ready cfg t) (fun _ s _ _ => Introduced cfg s)
        s P h := by
  unfold Subject.withLock Subject.object
  simp only [wp_bind, wp_get]
  cases hobject : s.subjects[n]? with
  | none => exact hI
  | some object =>
      simp only [Option.elim_some, wp_pure, wp_when]
      split_ifs with hlocked
      · -- a greenlet that waits for the lock goes on with its turn
        rw [wp_perform]
        refine ⟨hI, ?_⟩
        rintro s P (e | _) hI hres
        · exact hI
        · exact introduced_turn message hI hres.1
      · exact introduced_turn message hI (hfree (by simp [isFree, hobject, hlocked]))

/-- What `send` does behind the call of the `auth_function`. -/
theorem introduced_refresh {p : Hub Unit} (hI : Introduced cfg s) (hadmits : Admits s)
    (hp : ∀ s P h, Introduced cfg s →
      (writesNext cfg s t (.auth .send) (.ok none) = true → Admits s) →
        p.wp (ready cfg t) (fun _ s _ _ => Introduced cfg s) s P h) :
    (Connection.refreshTokenMaybe cfg .send >>= fun _ => p).wp (ready cfg t)
      (fun _ s _ _ => Introduced cfg s) s P h := by
  unfold Connection.refreshTokenMaybe authFunction Connection.setToken
  simp only [wp_bind, wp_when]
  split_ifs
  · rw [wp_perform]
    refine ⟨hI, ?_⟩
    rintro s P (e | _ | token) hI hres
    · exact hI
    · exact hp s P _ hI hres.1
    · exact hp _ P _ (hI.congr rfl) fun hwrites => hres.1 (by
        rw [← hwrites]
        unfold writesNext
        rfl)
  · exact hp s P h hI fun _ => hadmits

/-- A call of `send`, while the connection is disconnected or ready. -/
theorem introduced_sendCall (method : Value) (arguments : Arguments) (onInvocation : Option Nat)
    (invocationId : Option String) (uuid : String) :
    Leads (ready cfg (.send method arguments onInvocation invocationId uuid))
      (fun s _ => Introduced cfg s ∧ (WebsocketTransport.isRunning s = true → isReady s = true))
      (IntroducedInv cfg)
      (Connection.send cfg method arguments onInvocation invocationId uuid) := by
  have hids : Keeps (ready cfg (.send method arguments onInvocation invocationId uuid))
      (fun s _ => Introduced cfg s ∧ (WebsocketTransport.isRunning s = true → isReady s = true))
      (record fun h => { h with ids := h.ids ++ [invocationId.getD uuid] }) :=
    Keeps.modify fun _ _ h => ⟨h.1.congr rfl, h.2⟩
  apply Leads.bind (fun _ _ h => h.1) hids
  intro _
  apply Leads.get_bind
  rintro s P h ⟨hI, hready⟩
  cases hrunning : WebsocketTransport.isRunning s with
  | false => exact hI
  | true =>
      -- what is written on a running websocket comes behind the handshake
      have hadmits : Admits s := fun _ => hready hrunning
      cases arguments with
      | list items =>
          have hregister : ∀ handler, Keeps (ready cfg (.send method (.list items) onInvocation
              invocationId uuid)) (Admitted cfg) (Connection.register handler) := fun handler =>
            Connection.keeps_register (Keeps.modify fun _ _ h => ⟨h.1.congr rfl, h.2⟩)
              (Keeps.modify fun _ _ h => ⟨h.1.congr rfl, h.2⟩)
          have hlist : Leads (ready cfg (.send method (.list items) onInvocation invocationId uuid))
              (Admitted cfg) (IntroducedInv cfg)
              (Connection.sendList cfg method items onInvocation (invocationId.getD uuid)) :=
            Leads.bind (fun _ _ h => h.1) .get fun _ => Leads.bind (fun _ _ h => h.1)
              (keeps_elim (.pure _) fun _ => hregister _)
              fun _ => WebsocketTransport.introduced_sendHub _
          exact introduced_refresh hI hadmits fun s P h hI hwrites => hlist s P h ⟨hI, hwrites rfl⟩
      | subject subject =>
          apply introduced_refresh hI hadmits
          intro s P h hI hwrites
          show (Subject.set subject (fun object => { object with target := some method }) >>=
            fun _ => Subject.start cfg subject).wp _ _ _ _ _
          unfold Subject.set
          rw [wp_bind, wp_modify]
          apply introduced_withLock
          · exact hI.congr rfl
          · intro hfree _
            apply hwrites
            rw [← hfree]
            cases hobject : s.subjects[subject]? <;> simp [writesNext, isFree, hobject]
      | other => exact hI

theorem introduced_stream (event : String) (eventParams : Value) (uuid : String) :
    Leads (ready cfg t) (Admitted cfg) (IntroducedInv cfg)
      (Connection.stream cfg event eventParams uuid) := by
  have hset : ∀ {f : State → State}, (∀ s, handedView (f s) = handedView s) →
      (∀ s, Admits s → Admits (f s)) →
        Keeps (ready cfg t) (Admitted cfg) (modify f : Hub Unit) :=
    fun hf hadmits => Keeps.modify fun s _ h => ⟨h.1.congr (hf s), hadmits s h.2⟩
  exact Leads.bind (fun _ _ h => h.1) (hset (fun _ => rfl) fun _ h => h) fun _ =>
    Leads.bind (fun _ _ h => h.1) .get fun _ =>
      Leads.bind (fun _ _ h => h.1) (hset (fun _ => rfl) fun _ h => h) fun _ =>
        Leads.bind (fun _ _ h => h.1)
          (Connection.keeps_register (hset (fun _ => rfl) fun _ h => h)
            (hset (fun _ => rfl) fun _ h => h))
          fun _ => WebsocketTransport.introduced_sendHub _

/-! ## Runs -/

/-- An open event is answered with the handshake request. -/
theorem introduced_opened (app : Nat) :
    Keeps (ready cfg t) (IntroducedInv cfg) (WebSocketApp.handle cfg app .opened) := by
  intro s P h hI
  have hsend : (WebsocketTransport.onOpen cfg).wp (ready cfg t)
      (fun _ s _ _ => Introduced cfg s)
      { s with apps := s.apps.modify app fun a => { a with opened := true } } P h := by
    have hrecorded : Recorded cfg
        { s with apps := s.apps.modify app fun a => { a with opened := true } } :=
      hI.toRecorded.congr (by simp) rfl rfl
    apply WebsocketTransport.introduced_send
    · intro hnone
      refine ⟨hrecorded, fun stored hstored _ => ?_⟩
      rw [hnone] at hstored
      cases hstored
    · intro e he
      obtain ⟨raw, hraw⟩ := cfg.protocol.encode_handshake
      rw [hraw] at he
      cases he
    · exact fun stored hstored => hrecorded.handing hstored (.inl rfl)
  have herror : ∀ e : Exc, Keeps (ready cfg t) (IntroducedInv cfg)
      (if e.isException then WebsocketTransport.onSocketError (.failed app false) else raise e) :=
    fun _ => Keeps.ite (fun _ => WebsocketTransport.introduced_onSocketError _) fun _ => .raise _
  unfold WebSocketApp.handle WebSocketApp.callback setApp
  simp only [wp_bind, wp_modify, wp_tryCatch, wp_pure]
  refine wp_mono ?_ hsend
  rintro (e | _) s P h hI
  · refine wp_mono ?_ (herror e s P h hI)
    rintro (e | _) s P h hI
    · exact hI
    · exact hI
  · exact hI

/-- What arrives on a websocket comes behind its open event. -/
theorem introduced_message {app : Nat} {raw : Raw} (hI : Introduced cfg s)
    (hopened : isOpened s app = true) :
    (WebSocketApp.handle cfg app (.message raw)).wp (ready cfg t)
      (fun _ s _ _ => Introduced cfg s) s P h := by
  have hdispatch : Connection.KeepsDispatch (ready cfg t) (IntroducedInv cfg) :=
    { calls := ⟨fun _ => introduced_modify fun _ => rfl, fun _ _ => introduced_perform _⟩
      dispatched := fun _ => introduced_modify fun _ => rfl
      unregister := fun _ => introduced_modify fun _ => rfl
      event := fun _ _ => introduced_perform _
      error := fun _ => introduced_perform _ }
  have hreceive : Leads (ready cfg t) (fun s _ => Introduced cfg s ∧ isOpened s app = true)
      (IntroducedInv cfg) (WebsocketTransport.receive cfg app raw) :=
    fun _ _ _ hs => WebsocketTransport.introduced_receive hs.1 hs.2
  exact WebSocketApp.leads_handleMessage hreceive
    (fun _ => Connection.keeps_onMessage (fun _ => Connection.keeps_dispatch hdispatch)
      (WebsocketTransport.introduced_stop _))
    (WebsocketTransport.introduced_onSocketError _) s P h ⟨hI, hopened⟩

theorem introduced_runForever (app : Nat) :
    Keeps (ready cfg (.runForever app)) (IntroducedInv cfg) (WebSocketApp.runForever cfg app) := by
  have hsilent : Keeps (ready cfg (.runForever app)) (IntroducedInv cfg)
      (setApp app fun a => { a with silent := true }) := introduced_setApp fun _ => rfl
  have hended : Keeps (ready cfg (.runForever app)) (IntroducedInv cfg)
      (setApp app fun a => { a with ended := true }) := introduced_setApp fun _ => rfl
  have hcallback : ∀ {isOver p}, Keeps (ready cfg (.runForever app)) (IntroducedInv cfg) p →
      Keeps (ready cfg (.runForever app)) (IntroducedInv cfg)
        (WebSocketApp.callback app isOver p) :=
    fun hp => WebSocketApp.keeps_callback hp (WebsocketTransport.introduced_onSocketError _)
  have hround : WebSocketApp.KeepsRound (ready cfg (.runForever app)) (IntroducedInv cfg) cfg app :=
    { block := fun _ _ h => h
      resume := fun _ _ _ h _ => h
      opened := fun s P h hI _ => introduced_opened app s P h hI
      message := by
        intro raw s P h hI hres
        obtain ⟨a, happ, hpossible⟩ := Hub.possible_event hres.2
        have hopened : a.opened = true := by
          simp only [Hub.isPossible, Bool.and_eq_true] at hpossible
          exact hpossible.2.1
        exact introduced_message hI (by simp [isOpened, happ, hopened])
      silent := hsilent
      error := hcallback (WebsocketTransport.introduced_onSocketError _) }
  exact WebSocketApp.keeps_runForever (introduced_setApp fun _ => rfl) hended
    (WebSocketApp.keeps_round hround)
    (WebSocketApp.keeps_teardown hsilent
      (hcallback (WebsocketTransport.keeps_onClosed (WebsocketTransport.keeps_reportEnd
        (introduced_modify fun _ => rfl) (WebsocketTransport.introduced_setState _))
          (introduced_perform _))) hended)

/-- A call of the user that may write. -/
def isWriter : Activity → Bool
  | .send .. | .stream .. | .next .. | .complete _ => true
  | _ => false

/-- The other threads ask for nothing when they start. -/
theorem introduced_other (ht : isWriter t = false) :
    Keeps (ready cfg t) (IntroducedInv cfg) (Hub.body cfg t) := by
  have hmodify : ∀ {f}, (∀ s, handedView (f s) = handedView s) →
      Keeps (ready cfg t) (IntroducedInv cfg) (Hub.once (modify f)) :=
    fun hf => keeps_once (introduced_modify hf)
  cases t with
  | send method arguments onInvocation invocationId uuid => cases ht
  | stream event eventParams uuid => cases ht
  | next subject item => cases ht
  | complete subject => cases ht
  | start =>
      exact keeps_once (Keeps.bind (introduced_modify fun _ => rfl)
        fun _ => WebsocketTransport.introduced_start)
  | stop =>
      exact keeps_once (Keeps.finally_ (WebsocketTransport.introduced_stop _)
        (introduced_modify fun _ => rfl))
  | on event callback => exact hmodify fun _ => rfl
  | onOpen registered => exact hmodify fun _ => rfl
  | onClose registered => exact hmodify fun _ => rfl
  | onReconnect registered => exact hmodify fun _ => rfl
  | onError registered => exact hmodify fun _ => rfl
  | subscribe object callbacks =>
      exact keeps_once (StreamHandler.keeps_subscribeObject fun _ => introduced_modify fun _ => rfl)
  | newSubject uuid => exact hmodify fun _ => rfl
  | runForever app => exact introduced_runForever app
  | checkerRun => exact introduced_checker
  | deferredReconnect sleepTime => exact keeps_once (introduced_deferredReconnect sleepTime)
  | clock seconds => exact hmodify fun _ => rfl

theorem introduced_body (t : Activity) (hI : Introduced cfg s) (hstart : (Ready cfg).start s P t) :
    (Hub.body cfg t).wp (ready cfg t) (fun _ s _ _ => Introduced cfg s) s P [] := by
  have honce : ∀ {t} {J : HubInv} {p : Hub Unit}, Leads (ready cfg t) J (IntroducedInv cfg) p →
      Leads (ready cfg t) J (IntroducedInv cfg) (Hub.once p) :=
    fun hp => Leads.bind_keeps hp fun _ => .pure _
  cases t with
  | send method arguments onInvocation invocationId uuid =>
      exact honce (introduced_sendCall _ _ _ _ _) s P [] ⟨hI, hstart.1 rfl⟩
  | stream event eventParams uuid =>
      exact honce (introduced_stream _ _ _) s P [] ⟨hI, hstart.2 rfl⟩
  | next subject item =>
      have hnext : Leads (ready cfg (.next subject item))
          (fun s _ => Introduced cfg s ∧ (writesFirst s (.next subject item) = true → Admits s))
          (IntroducedInv cfg) (Subject.next cfg subject item) := fun s P h hs =>
        introduced_withLock _ hs.1 fun hfree haimed => hs.2 (by simp [writesFirst, hfree, haimed])
      exact honce hnext s P [] ⟨hI, hstart.2⟩
  | complete subject =>
      have hcomplete : Leads (ready cfg (.complete subject))
          (fun s _ => Introduced cfg s ∧ (writesFirst s (.complete subject) = true → Admits s))
          (IntroducedInv cfg) (Subject.complete cfg subject) := fun s P h hs =>
        introduced_withLock _ hs.1 fun hfree haimed => hs.2 (by simp [writesFirst, hfree, haimed])
      exact honce hcomplete s P [] ⟨hI, hstart.2⟩
  | _ => exact introduced_other rfl s P [] hI

theorem introduced_proof : Proof (hub cfg) (Ready cfg) (IntroducedInv cfg) fun _ _ _ _ => True := by
  have henter : KeepsEntering (Ready cfg) (IntroducedInv cfg) :=
    { inv := fun _ _ _ h => h.congr rfl
      start := fun _ _ _ _ h => h
      resume := fun _ _ _ _ _ _ h => h }
  apply Hub.proof henter
  · refine ⟨⟨?_, ?_, ?_⟩, ?_⟩ <;> simp [State.new, History.new]
  · exact fun _ _ _ h _ _ => h
  · exact fun s P t h hstart => ends_of_wp (fun _ _ h => h) (introduced_body t h hstart)

/-- A call of `send` on a connection that is disconnected raises at once. -/
theorem send_refused (method : Value) (arguments : Arguments) (onInvocation : Option Nat)
    (invocationId : Option String) (uuid : String)
    (hdown : WebsocketTransport.isRunning s = false) :
    ∃ s', ((hub cfg).body (.send method arguments onInvocation invocationId uuid)).run s =
      (s', [], .finished (.error
        (.hubConnectionError "Cannot connect to SignalR hub. Unable to transmit messages"))) := by
  cases s
  simp only [WebsocketTransport.isRunning, bne_eq_false_iff_eq] at hdown
  subst hdown
  exact ⟨_, rfl⟩

/-- In every run whose steps are ready, the first message handed to a websocket is the handshake
request, no other message is handed to it before a response without error was evaluated on it,
and a `send` that is called before that raises `HubConnectionError`. -/
theorem handshake_first {w : World State Exc Op Op.Result Activity}
    (h : (hub cfg).Reach (Ready cfg) w) :
    (∀ app x, w.shared.history.handed.find? (·.app == app) = some x →
      x.message = .handshake cfg.protocol.handshakeMessage) ∧
    (∀ x ∈ w.shared.history.handed, ∀ message, x.message = .hub message → x.accepted = true) ∧
    ∀ P method arguments onInvocation invocationId uuid,
      (Ready cfg).start w.shared P (.send method arguments onInvocation invocationId uuid) →
      isReady w.shared = false →
        ∃ s', ((hub cfg).body (.send method arguments onInvocation invocationId uuid)).run
          w.shared = (s', [], .finished (.error (.hubConnectionError
            "Cannot connect to SignalR hub. Unable to transmit messages"))) := by
  have hI : Introduced cfg w.shared := (introduced_proof.sound h).holds
  refine ⟨hI.first, ?_, ?_⟩
  · intro x hx message hmessage
    rcases hI.handed x hx with hrequest | haccepted
    · rw [hmessage] at hrequest
      cases hrequest
    · exact haccepted
  · intro P method arguments onInvocation invocationId uuid hstart hready
    apply send_refused
    by_contra hrunning
    have hisReady := hstart.1 rfl (by simpa using hrunning)
    rw [hready] at hisReady
    cases hisReady

/-- While the connection is connecting, a `send` passes, and its invocation is the first message
of the websocket. -/
theorem sent_first :
    ∃ w, (hub (.direct none)).Reach .any w ∧ w.shared.history.accepted = [] ∧
      w.shared.history.handed = [⟨0, .hub (.newInvocation (.str "1") (.dict [])
        (.str "Send") (.list [.int 7])), false⟩] := by
  have h := (hub (.direct none)).reach_after [.fork .start, .start 0,
    .fork (.send (.str "Send") (.list [.int 7]) none (some "1") "2"), .start 2] .start rfl
  exact ⟨_, h, rfl, rfl⟩

/-- A `send` behind the handshake. -/
theorem handshake_first_send :
    ∃ w, (hub (.direct none)).Reach (Ready (.direct none)) w ∧
      w.shared.history.handed.map (fun x => (x.app, x.accepted)) = [(0, false), (0, true)] ∧
      ∀ x ∈ w.shared.history.handed, ∀ message, x.message = .hub message → x.accepted = true := by
  have h := (hub (.direct none)).reach_within (Ready (.direct none)) [.fork .start, .start 0,
    .start 1, .answer 1 (.happened .opened), .answer 1 .done, .start 1,
    .answer 1 (.happened (.message (.text "\x7b\x7d\x1e"))),
    .fork (.send (.str "Send") (.list [.int 7]) none (some "1") "2"), .start 2] .start rfl
  exact ⟨_, h, rfl, (handshake_first h).2.1⟩

end GeventSignalR
