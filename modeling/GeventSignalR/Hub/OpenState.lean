import GeventSignalR.Hub.Objects

/-!
# The state of an open connection

`state` is to be `connected` as long as the current websocket, once a handshake was accepted on it,
is neither closed nor lost nor over.

* `isOpen` says that the connection is open in this sense.
* `Warranted` are the steps on which nobody sets the state of an open connection: `mayResume` lists
  the returns of operations behind which the code would do so.
* `Attested` is the invariant, and `Calm` says that the connection is not open.  What holds of the
  exceptions is said by `Left`, `Deferring` and `Ended`, depending on who gets them.
* The transport: who calls `stop`, `start` or `send` finds the invariant again.
-/

namespace GeventSignalR

open Coop Coop.Prog WebsocketTransport

/-! ## The condition -/

/-- The websocket was neither closed nor lost, and is not over. -/
def App.isGoing (a : App) : Bool :=
  !a.closing && !a.silent && !a.lost && !a.ended

/-- A handshake was accepted on the current websocket, which goes on. -/
def isOpen (s : State) : Bool :=
  s.ws.any fun app => s.history.accepted.contains app && s.apps[app]?.any (·.isGoing)

/-- The websocket of a greenlet. -/
def socketOf : Activity → Option Nat
  | .runForever app => some app
  | _ => none

/-- An exception leaves a callback of the websocket: `on_socket_error` calls `on_close` before it
sets the state, and what is no `Exception` ends the greenlet. -/
def mayLeave (s : State) (app : Nat) (e : Exc) : Bool :=
  if e.isException then s.onClose else s.ws == some app

/-- An exception leaves `on_socket_error`, so that the websocket is over. -/
def mayEnd (s : State) (app : Nat) (e : Exc) : Bool :=
  (e.isException && s.onClose) || s.ws == some app

/-- An exception reaches the `except` clause of `handle_reconnect`, which may raise itself. -/
def mayDefer (s : State) (app : Nat) (e : Exc) : Bool :=
  if e.isException then
    s.reconnectionHandler.all fun handler =>
      match handler.next.2 with
      | .ok _ => true
      | .error e => mayLeave s app e
  else
    mayLeave s app e

/-- A frame can be decoded, and is no rejected handshake response. -/
def isReadable (cfg : Config) (raw : Raw) (handshakeReceived : Bool) : Bool :=
  if handshakeReceived then (cfg.protocol.parseMessages raw).isOk
  else (cfg.protocol.decodeHandshake raw).toOption.any fun response => isAccepted response.1

/-- The operation of a greenlet returns while the connection is open, and the code behind it does
not set the state. -/
def mayResume (cfg : Config) (s : State) (t : Activity) : (op : Op) → Except Exc op.Result → Bool
  -- behind `close()` of a websocket that was replaced in the meantime
  | .wsClose .., .ok _ => false
  | .wsClose _ .reconnect, .error e => e ≠ .connectionClosed && (socketOf t).all (mayDefer s · e)
  | .wsClose .., .error e => (socketOf t).all (mayLeave s · e)
  -- a lost connection or the end of a websocket, while another one is open
  | .wsSend app _, .error e =>
      if e.isConnectionLost then s.ws == some app else (socketOf t).all (mayLeave s · e)
  | .event app, .error e => mayEnd s app e
  | .event app, .ok (.failed _) => s.onClose || s.ws == some app
  | .event app, .ok .closed => s.ws == some app
  -- a frame that makes `on_message` raise
  | .event _, .ok (.message raw) => s.onClose || isReadable cfg raw s.handshakeReceived
  -- `on_close`, with the assignments of `on_close` and `on_socket_error` behind it
  | .callback (.onClose (.closed app)), .error e => !e.isException || mayEnd s app e
  | .callback (.onClose (.failed _ false)), .ok _ => false
  | .callback (.onClose (.failed app false)), .error e => mayEnd s app e
  | .callback (.onClose (.failed app true)), _ => s.ws == some app
  | .callback (.onClose .rejected), .ok _ => false
  | .callback (.onClose .lost), .ok _ => (socketOf t).isNone || s.onClose
  | .callback (.onClose (.closed _)), .ok _ => true
  -- the other functions of the user, and what `handle_reconnect` catches
  | .callback _, .error e => (socketOf t).all (mayLeave s · e)
  | .auth .start, .error e | .kill _, .error e | .post .., .error e =>
      (socketOf t).all (mayDefer s · e)
  | .post .., .ok response =>
      match negotiated cfg.urllib cfg.str s.url response with
      | .ok _ => true
      | .error e => (socketOf t).all (mayDefer s · e)
  | _, _ => true

/-- Where the connection is open, nobody sets its state. -/
def Warranted (cfg : Config) : Cond State Exc Op Op.Result Activity where
  fork := fun _ _ _ => True
  start := fun _ _ t => t.isSound = true
  resume := fun s _ t op r =>
    (∀ raw ∈ arrived op r, isSizedFrame cfg raw = true) ∧
      (isOpen s = true → mayResume cfg s t op r = true)

instance (cfg : Config) : System.Decides (Warranted cfg) where
  fork := fun _ _ _ => isTrue trivial
  start := fun _ _ t => inferInstanceAs (Decidable (t.isSound = true))
  resume := fun _ _ _ _ _ => inferInstanceAs (Decidable (_ ∧ (_ → _)))

/-! ## The invariant -/

/-- What holds whatever the state of the connection. -/
structure Grounded (cfg : Config) (s : State) : Prop where
  accepted : ∀ app ∈ s.history.accepted, app < s.apps.length
  handler : s.reconnectionHandler.isSome = cfg.reconnection.isSome
  functions : ∀ handler ∈ s.streams, handler.isCallable = true
  objects : ∀ object invocationId, .stream object invocationId ∈ s.streamHandlers →
    object < s.streams.length

/-- An open connection is reported as connected. -/
structure Attested (cfg : Config) (s : State) (_ : Multiset (Label Op Activity)) : Prop
    extends Grounded cfg s where
  connected : isOpen s = true → s.state = .connected

/-- The connection is not open. -/
structure Calm (cfg : Config) (s : State) (_ : Multiset (Label Op Activity)) : Prop
    extends Grounded cfg s where
  notOpen : isOpen s = false

/-- The connection is not open once the websocket is over. -/
structure Leaving (cfg : Config) (app : Nat) (s : State) (_ : Multiset (Label Op Activity)) : Prop
    extends Grounded cfg s where
  own : isOpen s = true → s.ws = some app

/-- If the connection is open, `on_close` is registered. -/
structure Covered (cfg : Config) (s : State) (P : Multiset (Label Op Activity)) : Prop
    extends Attested cfg s P where
  registered : isOpen s = true → s.onClose = true

/-- The exception may leave a callback of the websocket. -/
structure Left (cfg : Config) (t : Activity) (e : Exc) (s : State)
    (P : Multiset (Label Op Activity)) : Prop extends Attested cfg s P where
  allowed : isOpen s = true → ∀ app, socketOf t = some app → mayLeave s app e = true

/-- The exception may reach the `except` clause of `handle_reconnect`. -/
structure Deferring (cfg : Config) (t : Activity) (e : Exc) (s : State)
    (P : Multiset (Label Op Activity)) : Prop extends Attested cfg s P where
  allowed : isOpen s = true → ∀ app, socketOf t = some app → mayDefer s app e = true

/-- The exception may end the websocket. -/
structure Breaking (cfg : Config) (app : Nat) (e : Exc) (s : State)
    (P : Multiset (Label Op Activity)) : Prop extends Attested cfg s P where
  allowed : isOpen s = true → mayEnd s app e = true

variable {cfg : Config} {t : Activity} {s s' : State} {P P' : Multiset (Label Op Activity)}
  {app : Nat} {e : Exc} {m : State → Nat}

/-- What the proof assumes. -/
abbrev warranted (cfg : Config) (t : Activity) : HubRely :=
  (hub cfg).rely (Warranted cfg) (Attested cfg) t

theorem all_socketOf {p : Nat → Bool} :
    (socketOf t).all p = true ↔ ∀ app, socketOf t = some app → p app = true := by
  cases socketOf t <;> simp

/-! ## Whether the connection is open -/

theorem isOpen_iff : isOpen s = true ↔
    ∃ app, s.ws = some app ∧ app ∈ s.history.accepted ∧
      (s.apps.map (·.isGoing))[app]? = some true := by
  unfold isOpen
  cases s.ws with
  | none => simp
  | some app =>
      cases hget : s.apps[app]? <;> simp [hget]

theorem isOpen_of_ws (hws : s.ws = none) : isOpen s = false := by
  simp [isOpen, hws]

/-- What the properties read of the state, but for `state` and `on_close`. -/
def openView (s : State) : Option Nat × List Nat × List Bool × Bool × List StreamHandler ×
    List Handler :=
  (s.ws, s.history.accepted, s.apps.map (·.isGoing), s.reconnectionHandler.isSome, s.streams,
    s.streamHandlers)

theorem isOpen_congr (hs : openView s' = openView s) : isOpen s' = isOpen s := by
  simp only [openView, Prod.mk.injEq] at hs
  rw [Bool.eq_iff_iff, isOpen_iff, isOpen_iff, hs.1, hs.2.1, hs.2.2.1]

/-- The state after a change of a websocket. -/
def settingApp (app : Nat) (f : App → App) (s : State) : State :=
  { s with apps := s.apps.modify app f }

theorem openView_settingApp {f : App → App} (hf : ∀ a, (f a).isGoing = a.isGoing) :
    openView (settingApp app f s) = openView s := by
  simp only [openView, settingApp, map_modify hf]

/-- A websocket that does not go on leaves another one open. -/
theorem isOpen_settingApp {f : App → App} (hf : ∀ a, (f a).isGoing = false)
    (hopen : isOpen (settingApp app f s) = true) : isOpen s = true ∧ s.ws ≠ some app := by
  obtain ⟨other, hws, haccepted, hgoing⟩ := isOpen_iff.mp hopen
  have hother : app ≠ other := by
    rintro rfl
    simp only [settingApp, List.getElem?_map, List.getElem?_modify] at hgoing
    cases hget : s.apps[app]? <;> simp [hget, hf] at hgoing
  constructor
  · refine isOpen_iff.mpr ⟨other, hws, haccepted, ?_⟩
    simpa [settingApp, List.getElem?_modify, hother] using hgoing
  · rintro hsame
    have hws' : s.ws = some other := hws
    rw [hsame, Option.some.injEq] at hws'
    exact hother hws'

/-! ## The properties -/

theorem Grounded.congr (hG : Grounded cfg s) (hs : openView s' = openView s) :
    Grounded cfg s' := by
  simp only [openView, Prod.mk.injEq] at hs
  obtain ⟨-, haccepted, hgoing, hhandler, hstreams, hhandlers⟩ := hs
  have hlength : s'.apps.length = s.apps.length := by
    simpa using congrArg List.length hgoing
  constructor
  · rw [haccepted, hlength]
    exact hG.accepted
  · rw [hhandler]
    exact hG.handler
  · rw [hstreams]
    exact hG.functions
  · rw [hstreams, hhandlers]
    exact hG.objects

theorem Grounded.settingApp (hG : Grounded cfg s) {f : App → App} :
    Grounded cfg (settingApp app f s) := by
  refine ⟨?_, hG.handler, hG.functions, hG.objects⟩
  intro other hmem
  have hlength : other < s.apps.length := hG.accepted other hmem
  simpa [GeventSignalR.settingApp] using hlength

namespace Calm

theorem attested (hC : Calm cfg s P) : Attested cfg s P' :=
  ⟨hC.toGrounded, fun hopen => by rw [hC.notOpen] at hopen; cases hopen⟩

theorem leaving (hC : Calm cfg s P) : Leaving cfg app s P' :=
  ⟨hC.toGrounded, fun hopen => by rw [hC.notOpen] at hopen; cases hopen⟩

theorem left (hC : Calm cfg s P) : Left cfg t e s P' :=
  ⟨hC.attested, fun hopen => by rw [hC.notOpen] at hopen; cases hopen⟩

theorem deferring (hC : Calm cfg s P) : Deferring cfg t e s P' :=
  ⟨hC.attested, fun hopen => by rw [hC.notOpen] at hopen; cases hopen⟩

theorem congr (hC : Calm cfg s P) (hs : openView s' = openView s) : Calm cfg s' P' := by
  refine ⟨hC.toGrounded.congr hs, ?_⟩
  rw [isOpen_congr hs]
  exact hC.notOpen

end Calm

namespace Attested

theorem congr (hA : Attested cfg s P) (hs : openView s' = openView s)
    (hstate : s'.state = s.state) : Attested cfg s' P' := by
  refine ⟨hA.toGrounded.congr hs, ?_⟩
  rw [isOpen_congr hs, hstate]
  exact hA.connected

/-- It holds where the state is as it should be. -/
theorem of_connected (hG : Grounded cfg s) (hstate : s.state = .connected) : Attested cfg s P :=
  ⟨hG, fun _ => hstate⟩

/-- Where the greenlet does not get if the connection is open. -/
theorem calm (hA : Attested cfg s P) (hno : isOpen s ≠ true) : Calm cfg s P' :=
  ⟨hA.toGrounded, by simpa using hno⟩

/-- A connection that is not connected is not open. -/
theorem calm_of_ne (hA : Attested cfg s P) (hstate : s.state ≠ .connected) : Calm cfg s P' :=
  hA.calm fun hopen => hstate (hA.connected hopen)

/-- A websocket does not go on. -/
theorem ends (hA : Attested cfg s P) {f : App → App} (hf : ∀ a, (f a).isGoing = false) :
    Attested cfg (settingApp app f s) P' :=
  ⟨hA.toGrounded.settingApp, fun hopen => hA.connected (isOpen_settingApp hf hopen).1⟩

/-- Nobody but the websocket minds the exceptions. -/
theorem left (hA : Attested cfg s P) (ht : socketOf t = none) : Left cfg t e s P' := by
  refine ⟨hA.congr rfl rfl, ?_⟩
  intro _ app happ
  rw [ht] at happ
  cases happ

end Attested

namespace Leaving

theorem congr (hL : Leaving cfg app s P) (hs : openView s' = openView s) :
    Leaving cfg app s' P' := by
  refine ⟨hL.toGrounded.congr hs, ?_⟩
  rw [isOpen_congr hs, show s'.ws = s.ws from congrArg Prod.fst hs]
  exact hL.own

/-- The websocket does not go on, and the connection is not open. -/
theorem ends (hL : Leaving cfg app s P) {f : App → App} (hf : ∀ a, (f a).isGoing = false) :
    Calm cfg (settingApp app f s) P' := by
  refine ⟨hL.toGrounded.settingApp, ?_⟩
  by_contra hopen
  obtain ⟨hbefore, hother⟩ := isOpen_settingApp hf (by simpa using hopen)
  exact hother (hL.own hbefore)

end Leaving

theorem Left.congr (hL : Left cfg t e s P) (hs : openView s' = openView s)
    (hstate : s'.state = s.state) (hclose : s'.onClose = s.onClose) : Left cfg t e s' P' := by
  refine ⟨hL.toAttested.congr hs hstate, ?_⟩
  intro hopen app happ
  rw [isOpen_congr hs] at hopen
  have hallowed := hL.allowed hopen app happ
  unfold mayLeave at hallowed ⊢
  rwa [hclose, show s'.ws = s.ws from congrArg Prod.fst hs]

/-! ## Steps -/

/-- What an operation leads to, depending on what it returns while the connection is open. -/
theorem exits_perform {op : Op} {I : HubInv} {J : op.Result → HubInv} {F : Exc → HubInv}
    (hI : ∀ s P, I s P → Attested cfg s P)
    (hok : ∀ s P a, Attested cfg s P →
      (isOpen s = true → mayResume cfg s t op (.ok a) = true) → J a s P)
    (herror : ∀ s P e, Attested cfg s P →
      (isOpen s = true → mayResume cfg s t op (.error e) = true) → F e s P) :
    Exits m (warranted cfg t) I J F (perform op) := by
  apply Exits.perform
  · exact fun s P h => ⟨(hI s P h).toGrounded, (hI s P h).connected⟩
  · exact fun _ _ _ s P a _ hA hres => hok s P a ⟨hA.toGrounded, hA.connected⟩ hres.1.2
  · exact fun _ _ _ s P e _ hA hres => herror s P e ⟨hA.toGrounded, hA.connected⟩ hres.1.2

/-- A user function whose exceptions leave the callback of the websocket. -/
theorem exits_call {callback : Callback} {I : HubInv} (hI : ∀ s P, I s P → Attested cfg s P)
    (herror : ∀ s e, mayResume cfg s t (.callback callback) (.error e) =
      (socketOf t).all (mayLeave s · e)) :
    Exits m (warranted cfg t) I (fun _ => Attested cfg) (Left cfg t) (call callback) := by
  apply exits_perform hI
  · exact fun _ _ _ hA _ => hA
  · intro s P e hA hres
    refine ⟨hA, fun hopen => ?_⟩
    rw [← all_socketOf, ← herror]
    exact hres hopen

/-- An assignment that none of the properties reads. -/
theorem exits_calm {f : State → State} {F : Exc → HubInv}
    (hf : ∀ s, openView (f s) = openView s) :
    Exits m (warranted cfg t) (Calm cfg) (fun _ => Calm cfg) F (modify f) :=
  Exits.modify fun s _ hC => hC.congr (hf s)

theorem exits_modify {f : State → State} {F : Exc → HubInv}
    (hf : ∀ s, openView (f s) = openView s) (hstate : ∀ s, (f s).state = s.state) :
    Exits m (warranted cfg t) (Attested cfg) (fun _ => Attested cfg) F (modify f) :=
  Exits.modify fun s _ hA => hA.congr (hf s) (hstate s)

theorem openView_setHandler {f : ReconnectionHandler → ReconnectionHandler} :
    openView { s with reconnectionHandler := s.reconnectionHandler.map f } = openView s := by
  simp [openView]

/-! ## `stop` -/

theorem exits_closeWs {site : StopSite} {F : Exc → HubInv}
    (herror : ∀ s P app e, Attested cfg s P →
      (isOpen s = true → mayResume cfg s t (.wsClose app site) (.error e) = true) → F e s P) :
    Exits m (warranted cfg t) (Attested cfg) (fun _ => Calm cfg) F (closeWs site) := by
  apply Exits.get_bind
  intro s
  cases hws : s.ws with
  | none =>
      apply Exits.pure
      rintro s' P ⟨rfl, hA⟩
      exact hA.calm (by simp [isOpen_of_ws hws])
  | some app =>
      have hclosing : Exits m (warranted cfg t) (fun s' P => s' = s ∧ Attested cfg s P)
          (fun _ => Calm cfg) F (setApp app fun a => { a with closing := true }) := by
        apply Exits.modify
        rintro s' P ⟨rfl, hA⟩
        have hL : Leaving cfg app s' P := ⟨hA.toGrounded, fun _ => hws⟩
        exact hL.ends fun a => by simp [App.isGoing]
      refine Exits.bind hclosing fun _ => Exits.bind (J := fun _ => Calm cfg) ?_ fun _ => ?_
      · apply exits_perform fun _ _ hC => hC.attested
        · exact fun s P _ hA hres => hA.calm fun hopen => by cases hres hopen
        · exact fun s P e hA hres => herror s P app e hA hres
      · exact exits_calm fun s => openView_settingApp fun _ => rfl

theorem exits_stop {site : StopSite} {F : Exc → HubInv}
    (herror : ∀ s P app e, Attested cfg s P →
      (isOpen s = true → mayResume cfg s t (.wsClose app site) (.error e) = true) → F e s P) :
    Exits m (warranted cfg t) (Attested cfg) (fun _ => Calm cfg) F (stop site) := by
  apply Exits.get_bind
  intro s
  apply Exits.when
  · intro _
    have hchecker : Exits m (warranted cfg t) (fun s' P => s' = s ∧ Attested cfg s P)
        (fun _ => Attested cfg) F ConnectionStateChecker.stop := by
      apply Exits.modify
      rintro s' P ⟨rfl, hA⟩
      exact hA.congr rfl rfl
    refine Exits.bind hchecker fun _ => Exits.bind (exits_closeWs herror) fun _ => ?_
    rw [setState_disconnected]
    exact Exits.bind (J := fun _ => Calm cfg) (exits_calm fun _ => rfl) fun _ =>
      exits_calm fun _ => rfl
  · rintro hstate s' P ⟨rfl, hA⟩
    exact hA.calm_of_ne (by simpa using hstate)

/-- What leaves `stop` leaves the callback of the websocket. -/
theorem exits_stop_left {site : StopSite} (hsite : site ≠ .reconnect) :
    Exits m (warranted cfg t) (Attested cfg) (fun _ => Calm cfg) (Left cfg t) (stop site) := by
  apply exits_stop
  intro s P app e hA hres
  refine ⟨hA, fun hopen => ?_⟩
  rw [← all_socketOf]
  cases site with
  | reconnect => exact absurd rfl hsite
  | user => exact hres hopen
  | rejected => exact hres hopen
  | closeMessage => exact hres hopen

theorem exits_stopLost :
    Exits m (warranted cfg t) (Attested cfg) (fun _ => Calm cfg) (Deferring cfg t) stopLost := by
  let F : Exc → HubInv := fun e s P =>
    if e = .connectionClosed then Calm cfg s P else Deferring cfg t e s P
  have hstop : Exits m (warranted cfg t) (Attested cfg) (fun _ => Calm cfg) F
      (Connection.stop .reconnect) := by
    apply exits_stop
    intro s P app e hA hres
    simp only [F]
    split_ifs with he
    · exact hA.calm fun hopen => by simpa [mayResume, he] using hres hopen
    · refine ⟨hA, fun hopen => ?_⟩
      rw [← all_socketOf]
      simpa [mayResume, he] using hres hopen
  refine Exits.tryCatch hstop fun e => Exits.ite (fun he => ?_) fun he => ?_
  · rw [setState_disconnected]
    apply Exits.modify
    intro s P hF
    have hC : Calm cfg s P := by simpa only [F, if_pos he] using hF
    exact hC.congr rfl
  · apply Exits.raise
    intro s P hF
    simpa only [F, if_neg he] using hF

/-! ## `start` -/

theorem Deferring.congr (hD : Deferring cfg t e s P) (hs : openView s' = openView s)
    (hstate : s'.state = s.state) (hclose : s'.onClose = s.onClose)
    (hhandler : s'.reconnectionHandler = s.reconnectionHandler) : Deferring cfg t e s' P' := by
  refine ⟨hD.toAttested.congr hs hstate, ?_⟩
  intro hopen app happ
  rw [isOpen_congr hs] at hopen
  have hallowed := hD.allowed hopen app happ
  unfold mayDefer mayLeave at hallowed ⊢
  rwa [hclose, hhandler, show s'.ws = s.ws from congrArg Prod.fst hs]

/-- A request or a function behind which `handle_reconnect` catches what is raised. -/
theorem exits_perform_deferring {op : Op} {J : op.Result → HubInv}
    (hok : ∀ s P a, Attested cfg s P →
      (isOpen s = true → mayResume cfg s t op (.ok a) = true) → J a s P)
    (herror : ∀ s e, mayResume cfg s t op (.error e) = (socketOf t).all (mayDefer s · e)) :
    Exits m (warranted cfg t) (Attested cfg) J (Deferring cfg t) (perform op) := by
  apply exits_perform (fun _ _ hA => hA) hok
  intro s P e hA hres
  refine ⟨hA, fun hopen => ?_⟩
  rw [← all_socketOf, ← herror]
  exact hres hopen

theorem exits_negotiate :
    Exits m (warranted cfg t) (Attested cfg) (fun _ => Attested cfg) (Deferring cfg t)
      (negotiate cfg) := by
  apply Exits.get_bind
  intro s
  let url := getNegotiateUrl cfg.urllib cfg.url
  let J : Response → HubInv := fun response s' P =>
    Attested cfg s' P ∧
      (isOpen s' = true → mayResume cfg s' t (.post url s.headers) (.ok response) = true)
  have hpost : Exits m (warranted cfg t) (Attested cfg) J (Deferring cfg t) (post url s.headers) :=
    exits_perform_deferring (fun _ _ _ hA hres => ⟨hA, hres⟩) fun _ _ => rfl
  refine Exits.bind (hpost.of_weaker ?_) fun response => Exits.get_bind fun s => ?_
  · rintro s' P ⟨rfl, hA⟩
    exact hA
  · refine Exits.bind (J := fun _ => Attested cfg) (Exits.ofExcept ?_ ?_) fun _ =>
      exits_modify (fun _ => rfl) fun _ => rfl
    · rintro result - s' P ⟨rfl, hA, -⟩
      exact hA
    · rintro e he s' P ⟨rfl, hA, hres⟩
      refine ⟨hA, fun hopen => ?_⟩
      rw [← all_socketOf]
      simpa [mayResume, he] using hres hopen

/-- A new websocket has not been accepted. -/
theorem exits_createApp {F : Exc → HubInv} :
    Exits m (warranted cfg t) (Calm cfg) (fun _ => Calm cfg) F createApp := by
  have hnew : ∀ (s : State) (P P' : Multiset (Label Op Activity)) (creations : List Creation)
      (interventions : List Intervention) (a : App), Calm cfg s P →
      Calm cfg { s with
        apps := s.apps ++ [a]
        ws := some s.apps.length
        greenlet := some s.apps.length
        history := { s.history with creations, interventions } } P' := by
    intro s P P' creations interventions a hC
    refine ⟨⟨?_, hC.handler, hC.functions, hC.objects⟩, ?_⟩
    · intro app hmem
      have hlength : app < s.apps.length := hC.accepted app hmem
      simp only [List.length_append, List.length_singleton]
      omega
    · by_contra hopen
      obtain ⟨app, hws, haccepted, -⟩ := isOpen_iff.mp (by simpa using hopen)
      cases hws
      -- its number is not in use yet
      exact (hC.accepted _ haccepted).ne rfl
  intro s P h hC
  exact hnew s P _ _ _ _ hC

theorem exits_start :
    Exits m (warranted cfg t) (Attested cfg) (fun _ => Attested cfg) (Deferring cfg t)
      (Connection.start cfg) := by
  have hauth : Exits m (warranted cfg t) (Attested cfg) (fun _ => Attested cfg) (Deferring cfg t)
      (authFunction .start) :=
    exits_perform_deferring (fun _ _ _ hA _ => hA) fun _ _ => rfl
  have hrefresh : Exits m (warranted cfg t) (Attested cfg) (fun _ => Attested cfg)
      (Deferring cfg t) (Connection.refreshTokenMaybe cfg .start) := by
    refine Exits.when (fun _ => Exits.bind hauth fun token => ?_) fun _ _ _ hA => hA
    cases token with
    | none => exact Exits.pure _ fun _ _ hA => hA
    | some token => exact exits_modify (fun _ => rfl) fun _ => rfl
  have hnegotiate : Exits m (warranted cfg t) (Attested cfg) (fun _ => Attested cfg)
      (Deferring cfg t) (when (!cfg.skipNegotiation) (negotiate cfg)) :=
    Exits.when (fun _ => exits_negotiate) fun _ _ _ hA => hA
  refine Exits.bind hrefresh fun _ => Exits.bind hnegotiate fun _ => Exits.get_bind fun s => ?_
  apply Exits.when
  · -- only a connection that is not open gets a new websocket
    intro hstate
    rw [setState_connecting]
    have hconnecting : Exits m (warranted cfg t) (fun s' P => s' = s ∧ Attested cfg s P)
        (fun _ => Calm cfg) (Deferring cfg t) (modify fun s => { s with
          state := .connecting, history := { s.history with ownState := .connecting } }) := by
      apply Exits.modify
      rintro s' P ⟨rfl, hA⟩
      have hC : Calm cfg s' P := hA.calm_of_ne (by simpa using hstate)
      exact hC.congr rfl
    exact Exits.bind hconnecting fun _ =>
      exits_createApp.mono (fun _ _ hC => hC) (fun _ _ _ hC => hC.attested) fun _ _ _ hD => hD
  · rintro - s' P ⟨rfl, hA⟩
    exact hA

/-! ## `handle_reconnect` -/

theorem exits_setHandler {f : ReconnectionHandler → ReconnectionHandler} {F : Exc → HubInv} :
    Exits m (warranted cfg t) (Attested cfg) (fun _ => Attested cfg) F (setHandler f) :=
  exits_modify (fun _ => openView_setHandler) fun _ => rfl

/-- The handler is there. -/
theorem exits_reconnectionHandler {I : HubInv} {F : Exc → HubInv}
    (hconfigured : cfg.reconnection.isSome = true) (hI : ∀ s P, I s P → Grounded cfg s) :
    Exits m (warranted cfg t) I (fun handler s P => I s P ∧ s.reconnectionHandler = some handler)
      F reconnectionHandler := by
  apply Exits.get_bind
  intro s
  cases hhandler : s.reconnectionHandler with
  | none =>
      apply Exits.raise
      rintro s' P ⟨rfl, h⟩
      have hsome := (hI s' P h).handler
      rw [hhandler, hconfigured] at hsome
      cases hsome
  | some handler =>
      apply Exits.pure
      rintro s' P ⟨rfl, h⟩
      exact ⟨h, hhandler⟩

theorem exits_nextSleepTime (hconfigured : cfg.reconnection.isSome = true)
    (he : e.isException = true) :
    Exits m (warranted cfg t) (Deferring cfg t e) (fun _ => Attested cfg) (Left cfg t)
      nextSleepTime := by
  refine Exits.bind (exits_reconnectionHandler hconfigured fun _ _ hD => hD.toGrounded)
    fun handler => ?_
  let K : HubInv := fun s P =>
    Attested cfg s P ∧ ∀ e', handler.next.2 = .error e' → Left cfg t e' s P
  have hset : Exits m (warranted cfg t)
      (fun s P => Deferring cfg t e s P ∧ s.reconnectionHandler = some handler) (fun _ => K)
      (Left cfg t) (setHandler fun _ => handler.next.1) := by
    apply Exits.modify
    rintro s P ⟨hD, hhandler⟩
    refine ⟨hD.toAttested.congr openView_setHandler rfl, fun e' he' => ?_⟩
    have hleft : Left cfg t e' s P := by
      refine ⟨hD.toAttested, fun hopen app happ => ?_⟩
      simpa [mayDefer, he, hhandler, he'] using hD.allowed hopen app happ
    exact hleft.congr openView_setHandler rfl rfl
  have hrecord : Exits m (warranted cfg t) K (fun _ => K) (Left cfg t)
      (record fun h => { h with exhausted := h.exhausted || !handler.next.2.isOk }) := by
    apply Exits.modify
    rintro s P ⟨hA, hleft⟩
    exact ⟨hA.congr rfl rfl, fun e' he' => (hleft e' he').congr rfl rfl rfl⟩
  refine Exits.bind hset fun _ => Exits.bind hrecord fun _ => Exits.ofExcept ?_ ?_
  · rintro sleepTime - s P ⟨hA, -⟩
    exact hA
  · rintro e' he' s P ⟨-, hleft⟩
    exact hleft e' he'

theorem exits_deferReconnect (hconfigured : cfg.reconnection.isSome = true) :
    Exits m (warranted cfg t) (Deferring cfg t e) (fun _ => Attested cfg) (Left cfg t)
      (deferReconnect e) := by
  refine Exits.ite (fun he => ?_) fun he => ?_
  · exact Exits.bind (exits_nextSleepTime hconfigured he) fun _ =>
      Exits.fork fun _ _ hA => hA.congr rfl rfl
  · apply Exits.raise
    intro s P hD
    refine ⟨hD.toAttested, fun hopen app happ => ?_⟩
    simpa [mayDefer, he] using hD.allowed hopen app happ

theorem exits_killGreenlet :
    Exits m (warranted cfg t) (Calm cfg) (fun _ => Attested cfg) (Deferring cfg t)
      killGreenlet := by
  apply Exits.get_bind
  intro s
  cases s.greenlet with
  | none =>
      apply Exits.raise
      rintro s' P ⟨rfl, hC⟩
      exact hC.deferring
  | some app =>
      have hkilled : Exits m (warranted cfg t) (fun s' P => s' = s ∧ Calm cfg s P)
          (fun _ => Attested cfg) (Deferring cfg t) (killApp app) := by
        refine Exits.of_weaker (I := Calm cfg) ?_ ?_
        · apply Exits.get_bind
          intro s
          apply Exits.bind (J := fun _ => Calm cfg)
          · apply Exits.modify
            rintro s' P ⟨rfl, hC⟩
            exact hC.congr rfl
          · intro _
            apply Exits.modify
            intro s P hC
            have hkilled : Calm cfg (settingApp app (fun a => { a with killed := true }) s) P :=
              hC.congr (openView_settingApp fun _ => rfl)
            exact hkilled.attested
        · rintro s' P ⟨rfl, hC⟩
          exact hC
      exact Exits.bind hkilled fun _ =>
        exits_perform_deferring (fun _ _ _ hA _ => hA) fun _ _ => rfl

theorem exits_reconnect :
    Exits m (warranted cfg t) (Attested cfg) (fun _ => Attested cfg) (Deferring cfg t)
      (reconnect cfg) :=
  Exits.bind exits_stopLost fun _ => Exits.bind exits_killGreenlet fun _ =>
    Exits.bind (exits_modify (fun _ => rfl) fun _ => rfl) fun _ =>
      Exits.bind (exits_modify (fun _ => rfl) fun _ => rfl) fun _ => exits_start

theorem exits_handleReconnect (hconfigured : cfg.reconnection.isSome = true) :
    Exits m (warranted cfg t) (Attested cfg) (fun _ => Attested cfg) (Left cfg t)
      (handleReconnect cfg) := by
  have hhandler : Exits m (warranted cfg t) (Attested cfg) (fun _ => Attested cfg) (Left cfg t)
      reconnectionHandler :=
    (exits_reconnectionHandler hconfigured fun _ _ hA => hA.toGrounded).mono (fun _ _ hA => hA)
      (fun _ _ _ hA => hA.1) fun _ _ _ hL => hL
  have hreport : Exits m (warranted cfg t) (Attested cfg) (fun _ => Attested cfg) (Left cfg t)
      reportReconnect :=
    Exits.bind (exits_modify (fun _ => rfl) fun _ => rfl) fun _ =>
      exits_call (fun _ _ hA => hA) fun _ _ => rfl
  have hset : Exits m (warranted cfg t) (Attested cfg) (fun _ => Attested cfg) (Left cfg t)
      (setReconnecting true) := Exits.bind hhandler fun _ => exits_setHandler
  refine Exits.bind hhandler fun handler => Exits.get_bind fun s => ?_
  refine Exits.of_weaker (I := Attested cfg) ?_ ?_
  · exact Exits.bind (Exits.when (fun _ => hreport) fun _ _ _ hA => hA) fun _ =>
      Exits.bind hset fun _ => Exits.tryCatch exits_reconnect fun _ =>
        exits_deferReconnect hconfigured
  · rintro s' P ⟨rfl, hA⟩
    exact hA

/-! ## `send` -/

/-- What holds of an exception of a write. -/
def Sent (cfg : Config) (t : Activity) (e : Exc) : HubInv := fun s P =>
  if e.isConnectionLost then Calm cfg s P else Left cfg t e s P

theorem exits_write {app : Nat} {message : Outgoing} :
    Exits m (warranted cfg t) (Attested cfg) (fun _ => Attested cfg) (Sent cfg t)
      (write app message) := by
  let F : Exc → HubInv := fun e s P => Attested cfg s P ∧
    (isOpen s = true → mayResume cfg s t (.wsSend app message) (.error e) = true)
  have hsend : Exits m (warranted cfg t) (Attested cfg) (fun _ => Attested cfg) F
      (perform (Op.wsSend app message)) :=
    exits_perform (fun _ _ hA => hA) (fun _ _ _ hA _ => hA) fun _ _ _ hA hres => ⟨hA, hres⟩
  refine Exits.bind (exits_modify (fun _ => rfl) fun _ => rfl) fun _ =>
    Exits.tryCatch hsend fun e => ?_
  refine Exits.bind (J := fun _ => Sent cfg t e) ?_ fun _ => Exits.raise fun _ _ h => h
  apply Exits.modify
  rintro s P ⟨hA, hres⟩
  unfold Sent
  split_ifs with he
  · -- a websocket that is lost does not go on
    have hL : Leaving cfg app s P :=
      ⟨hA.toGrounded, fun hopen => by simpa [mayResume, he] using hres hopen⟩
    exact hL.ends fun a => by simp [App.isGoing, he]
  · have hL : Left cfg t e s P := by
      refine ⟨hA, fun hopen => ?_⟩
      rw [← all_socketOf]
      simpa [mayResume, he] using hres hopen
    exact hL.congr (openView_settingApp fun a => by simp [App.isGoing, he]) rfl rfl

theorem exits_transmit {message : Outgoing}
    (hmessage : ∀ e, cfg.protocol.encode message = .error e → socketOf t = none) :
    Exits m (warranted cfg t) (Attested cfg) (fun _ => Attested cfg) (Sent cfg t)
      (transmit cfg message) := by
  have hws : Exits m (warranted cfg t) (Attested cfg) (fun _ => Attested cfg) (Sent cfg t) ws := by
    apply Exits.get_bind
    intro s
    cases hws : s.ws with
    | none =>
        apply Exits.raise
        rintro s' P ⟨rfl, hA⟩
        have hC : Calm cfg s' P := hA.calm (by simp [isOpen_of_ws hws])
        exact hC.left
    | some app =>
        apply Exits.pure
        rintro s' P ⟨rfl, hA⟩
        exact hA
  refine Exits.bind hws fun app => Exits.bind (J := fun _ => Attested cfg)
    (Exits.ofExcept ?_ ?_) fun _ => Exits.bind exits_write fun _ =>
      Exits.bind (exits_modify (fun _ => rfl) fun _ => rfl) fun _ => exits_setHandler
  · exact fun _ _ _ _ hA => hA
  · intro e he s P hA
    unfold Sent
    rw [cfg.protocol.encode_error he]
    exact hA.left (hmessage e he)

theorem exits_reportLost :
    Exits m (warranted cfg t) (Calm cfg) (fun _ => Attested cfg) (Left cfg t) (reportLost e) := by
  let J : HubInv := fun s P => Left cfg t (.valueError e.str) s P
  have hcall : Exits m (warranted cfg t) (Calm cfg) (fun _ => J) (Left cfg t)
      (call (.onClose .lost)) := by
    apply exits_perform fun _ _ hC => hC.attested
    · intro s P _ hA hres
      refine ⟨hA, fun hopen app happ => ?_⟩
      simpa [mayResume, happ, mayLeave, Exc.isException] using hres hopen
    · intro s P e hA hres
      refine ⟨hA, fun hopen => ?_⟩
      rw [← all_socketOf]
      exact hres hopen
  refine Exits.get_bind fun s => Exits.bind (J := fun _ => J) (Exits.when (fun _ => ?_) ?_)
    fun _ => Exits.raise fun _ _ h => h
  · apply hcall.of_weaker
    rintro s' P ⟨rfl, hC⟩
    exact hC
  · rintro - s' P ⟨rfl, hC⟩
    exact hC.left

theorem exits_connectionLost :
    Exits m (warranted cfg t) (Calm cfg) (fun _ => Attested cfg) (Left cfg t)
      (connectionLost cfg e) := by
  refine Exits.bind (J := fun _ => Calm cfg) (exits_calm fun _ => rfl) fun _ => ?_
  rw [setState_disconnected]
  refine Exits.bind (J := fun _ => Calm cfg) (exits_calm fun _ => rfl) fun _ =>
    Exits.get_bind fun s => Exits.ite (fun _ => ?_) fun hhandler => ?_
  · apply exits_reportLost.of_weaker
    rintro s' P ⟨rfl, hC⟩
    exact hC
  · intro s' P h hs
    obtain ⟨rfl, hC⟩ := hs
    have hconfigured : cfg.reconnection.isSome = true := by
      rw [← hC.handler, Option.isSome_iff_ne_none]
      simpa using hhandler
    exact exits_handleReconnect hconfigured s' P h hC.attested

/-- A message that can be encoded, or that no websocket sends. -/
theorem exits_send {message : Outgoing}
    (hmessage : ∀ e, cfg.protocol.encode message = .error e → socketOf t = none) :
    Exits m (warranted cfg t) (Attested cfg) (fun _ => Attested cfg) (Left cfg t)
      (send cfg message) := by
  refine Exits.tryCatch (exits_transmit hmessage) fun e => Exits.ite (fun he => ?_) fun he => ?_
  · apply exits_connectionLost.of_weaker
    intro s P hS
    simpa [Sent, he] using hS
  · apply Exits.raise
    intro s P hS
    simpa [Sent, he] using hS

end GeventSignalR
