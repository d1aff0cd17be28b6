import GeventSignalR.Coop.Throws
import GeventSignalR.Hub.Keeps

/-!
# Restarts

What `handle_reconnect` does for an invariant, and where it raises.

* `restartError` is the exception of a failed step of a restart.
* `KeepsRestart` lists what the steps of a restart have to keep; `throws_reconnect` and
  `throws_handleReconnect` follow.
* Only in the greenlet of a websocket an operation can raise `GreenletExit` by itself.
-/

namespace GeventSignalR

open Coop Coop.Prog

/-- The exception that a step of `reconnect` raises: `close`, `kill`, the `auth_function`,
the negotiate request, or what is made of its response. -/
def restartError (cfg : Config) (s : State) : (op : Op) → Except Exc op.Result → Option Exc
  | .wsClose _ .reconnect, .error e => if e = .connectionClosed then none else some e
  | .kill _, .error e => some e
  | .auth .start, .error e => some e
  | .post .., .error e => some e
  | .post .., .ok response =>
      match WebsocketTransport.negotiated cfg.urllib cfg.str s.url response with
      | .error e => some e
      | .ok _ => none
  | _, _ => none

/-- The operations of `reconnect`. -/
def Hub.isRestartStep : Op → Bool
  | .wsClose _ .reconnect | .kill _ | .auth .start | .post .. => true
  | _ => false

/-- A write has succeeded. -/
def isWritten : (op : Op) → Except Exc op.Result → Bool
  | .wsSend .., .ok _ => true
  | _, _ => false

/-- `next` of the reconnection handler returns. -/
def hasNext (s : State) : Bool :=
  s.reconnectionHandler.any (·.next.2.isOk)

/-- The stored websocket is one that the user started, or its handshake was accepted. -/
def isSettled (s : State) : Bool :=
  s.ws.all fun app => s.apps[app]?.all (!·.restarted) || s.history.accepted.contains app

theorem isSettled_congr {s s' : State} (hws : s'.ws = s.ws)
    (happs : s'.apps.map (·.restarted) = s.apps.map (·.restarted))
    (haccepted : s'.history.accepted = s.history.accepted) : isSettled s' = isSettled s := by
  have hall : ∀ app : Nat, s'.apps[app]?.all (fun a => !a.restarted) =
      s.apps[app]?.all (fun a => !a.restarted) := by
    intro app
    have hget := congrArg (·[app]?) happs
    simp only [List.getElem?_map] at hget
    cases hleft : s'.apps[app]? with
    | none =>
        rw [hleft] at hget
        cases hright : s.apps[app]? with
        | none => rfl
        | some a => simp [hright] at hget
    | some a' =>
        rw [hleft] at hget
        cases hright : s.apps[app]? with
        | none => simp [hright] at hget
        | some a =>
            have hrestarted : a'.restarted = a.restarted := by simpa [hright] using hget
            simp [hrestarted]
  unfold isSettled
  rw [hws, haccepted]
  simp only [hall]

/-- Behind this operation of `start` and `reconnect` nothing else can block them before they
create a websocket. -/
def Hub.isLastStep (cfg : Config) : Op → Bool
  | .kill _ => !cfg.auth && cfg.skipNegotiation
  | .auth .start => cfg.skipNegotiation
  | .post .. => true
  | _ => false

variable {R : HubRely} {I : HubInv} {cfg : Config}

/-! ## Greenlets that are not killed -/

theorem Exc.isException_of_isConnectionLost {e : Exc} (h : e.isConnectionLost = true) :
    e.isException = true := by
  cases e <;> first | rfl | cases h

theorem Exc.isException_of_isOSError {e : Exc} (h : e.isOSError = true) :
    e.isException = true := by
  cases e <;> first | rfl | cases h

/-- An operation that runs no user code raises an `Exception`, or its greenlet is killed. -/
theorem Hub.decode_error {s : State} {root : Activity} {op : Op} {answer : Answer} {e : Exc}
    (hforeign : Hub.isForeign op = false)
    (h : Hub.decode s root op answer = some (.error e)) :
    e.isException = true ∨ Hub.isKilled s root = true := by
  cases answer with
  | killed =>
      simp only [decode] at h
      split_ifs at h with hkilled
      exact .inr hkilled
  | raised e' =>
      left
      cases op with
      | wsSend app message =>
          simp only [decode] at h
          split_ifs at h with hlost
          cases h
          exact Exc.isException_of_isConnectionLost hlost
      | wsClose app site =>
          simp only [decode] at h
          split_ifs at h with hlost
          cases h
          exact Exc.isException_of_isConnectionLost hlost
      | post url headers =>
          simp only [decode] at h
          split_ifs at h with hos
          cases h
          exact Exc.isException_of_isOSError hos
      | auth site => cases hforeign
      | callback callback => cases hforeign
      | _ => cases h
  | _ =>
      exfalso
      revert h
      cases op <;> simp [decode] <;> split <;> simp

/-- The greenlets of the package that run no websocket are not killed. -/
theorem Hub.isException_of_rooted {s : State} {P : Multiset (Label Op Activity)} {t : Activity}
    {op : Op} {e : Exc} (h : (hub cfg).rooted.resume s P t op (.error e))
    (hpublic : Hub.isPublic t = false) (hrun : ∀ app, t ≠ .runForever app)
    (hforeign : Hub.isForeign op = false) : e.isException = true := by
  obtain ⟨root, answer, rfl | ⟨op', hcallable⟩, hdecode⟩ := h
  · rcases Hub.decode_error hforeign hdecode with hexception | hkilled
    · exact hexception
    · cases t with
      | runForever app => exact absurd rfl (hrun app)
      | _ => cases hkilled
  · have htrue := (Bool.and_eq_true_iff.mp hcallable).2
    rw [hpublic] at htrue
    cases htrue

/-- Sleeping ends with an exception only where the greenlet is killed. -/
theorem Hub.possible_sleep_error {s : State} {seconds : Int} {e : Exc}
    (h : (hub cfg).Possible s (.sleep seconds) (.error e)) : e = .greenletExit := by
  obtain ⟨root, answer, hdecode⟩ := h
  cases answer with
  | killed =>
      simp only [hub, decode] at hdecode
      split_ifs at hdecode
      cases hdecode
      rfl
  | _ => cases hdecode

/-- What arrives from outside is a call of a public method. -/
theorem Hub.isPublic_of_arrives {t : Activity} (h : (hub cfg).Arrives t) :
    Hub.isPublic t = true := by
  rcases h with hfork | ⟨op, hcall⟩
  · exact hfork
  · exact (Bool.and_eq_true_iff.mp hcall).2

/-! ## The steps of a restart -/

/-- What `reconnect` does besides its operations and the creation of a websocket. -/
structure KeepsRestart (R : HubRely) (I : HubInv) : Prop where
  checker : Keeps R I ConnectionStateChecker.stop
  closing : ∀ app, Keeps R I (setApp app fun a => { a with closing := true })
  closed : ∀ app, Keeps R I (setApp app fun a => { a with closed := true })
  disconnected : Keeps R I (WebsocketTransport.setState .disconnected)
  connecting : Keeps R I (WebsocketTransport.setState .connecting)
  handshakeReceived : Keeps R I (WebsocketTransport.setHandshakeReceived false)
  killed : ∀ app, Keeps R I (WebsocketTransport.killApp app)
  restarts : Keeps R I (record fun h => { h with restarts := h.restarts ++ [h.accepted.length] })
  token : ∀ token, Keeps R I (Connection.setToken token)
  redirect : ∀ url headers, Keeps R I (modify fun s =>
    { s with
      url
      headers := Option.getD headers s.headers
      oldHeaders := WebsocketTransport.replaced s headers } : Hub Unit)
  create : Keeps R I WebsocketTransport.createApp

/-- What its operations find, where they raise, and where they do not. -/
structure ThrowsRestart (R : HubRely) (I : HubInv) (F : Exc → HubInv) (cfg : Config) : Prop where
  block : ∀ s P op, Hub.isRestartStep op = true → I s P → R.inv s (.blocked R.me op ::ₘ P)
  resume : ∀ s P op r, Hub.isRestartStep op = true → R.inv s (.blocked R.me op ::ₘ P) →
    R.resume s P op r → I s P ∧ ∀ e, restartError cfg s op r = some e → F e s P
  greenlet : ∀ s P, I s P → s.greenlet = none → F .attributeError s P

namespace WebsocketTransport

variable {F F' : Exc → HubInv}

/-- Code that cannot raise. -/
theorem throws_of_keeps_modify {f : State → State} (h : Keeps R I (modify f : Hub Unit)) :
    Throws R I F (modify f : Hub Unit) :=
  Throws.modify fun _ _ hI => h.apply hI

theorem throws_setState {value : ConnectionState} (h : Keeps R I (setState value)) :
    Throws R I F (setState value) := by
  intro s P h' hI
  have hwp := h s P h' hI
  unfold setState record at hwp ⊢
  simp only [wp_bind, wp_modify, wp_when] at hwp ⊢
  split_ifs at hwp ⊢ <;> exact ⟨hwp, fun _ hr => by cases hr⟩

theorem throws_stopLost (hkeeps : KeepsRestart R I) (hthrows : ThrowsRestart R I F cfg) :
    Throws R I F stopLost := by
  have hclose : Throws R I (fun e s P => e ≠ .connectionClosed → F e s P) (closeWs .reconnect) := by
    refine Throws.bind .get fun s => ?_
    cases s.ws with
    | none => exact .pure _
    | some app =>
        refine Throws.bind (throws_of_keeps_modify (hkeeps.closing app)) fun _ =>
          Throws.bind (Throws.perform (fun s P => hthrows.block s P _ rfl) fun s P r hinv hres => ?_)
            fun _ => throws_of_keeps_modify (hkeeps.closed app)
        obtain ⟨hI, hF⟩ := hthrows.resume s P _ r rfl hinv hres
        refine ⟨hI, fun e hr hne => hF e ?_⟩
        rw [hr]
        exact if_neg hne
  have hstop : Throws R I (fun e s P => e ≠ .connectionClosed → F e s P)
      (Connection.stop .reconnect) :=
    Throws.bind .get fun _ => Throws.when fun _ =>
      Throws.bind (throws_of_keeps_modify hkeeps.checker) fun _ => Throws.bind hclose fun _ =>
        Throws.bind (throws_setState hkeeps.disconnected) fun _ =>
          throws_of_keeps_modify hkeeps.handshakeReceived
  refine Throws.tryCatch hstop fun e s P h hI hF => ?_
  split_ifs with he
  · exact throws_setState hkeeps.disconnected s P h hI
  · refine ⟨hI, fun e' hr => ?_⟩
    cases hr
    exact hF he

theorem throws_killGreenlet (hkeeps : KeepsRestart R I) (hthrows : ThrowsRestart R I F cfg) :
    Throws R I F killGreenlet := by
  refine Throws.get_bind fun s P h hI => ?_
  cases hgreenlet : s.greenlet with
  | none =>
      refine ⟨hI, fun e hr => ?_⟩
      cases hr
      exact hthrows.greenlet s P hI hgreenlet
  | some app =>
      have hkill : Throws R I F (do killApp app; perform (Op.kill app) : Hub Unit) := by
        refine Throws.bind ?_ fun _ => Throws.perform (fun s P => hthrows.block s P _ rfl)
          fun s P r hinv hres => ?_
        · exact fun s P h hI => ⟨hkeeps.killed app s P h hI, fun _ hr => by cases hr⟩
        · obtain ⟨hI, hF⟩ := hthrows.resume s P _ r rfl hinv hres
          refine ⟨hI, fun e hr => hF e ?_⟩
          rw [hr]
          rfl
      exact hkill s P h hI

theorem throws_start (hkeeps : KeepsRestart R I) (hthrows : ThrowsRestart R I F cfg) :
    Throws R I F (Connection.start cfg) := by
  have hauth : Throws R I F (authFunction .start) := by
    refine Throws.perform (fun s P => hthrows.block s P _ rfl) fun s P r hinv hres => ?_
    obtain ⟨hI, hF⟩ := hthrows.resume s P _ r rfl hinv hres
    refine ⟨hI, fun e hr => hF e ?_⟩
    rw [hr]
    rfl
  have hrefresh : Throws R I F (Connection.refreshTokenMaybe cfg .start) := by
    refine Throws.when fun _ => Throws.bind hauth fun token => ?_
    cases token with
    | none => exact .pure _
    | some token => exact throws_of_keeps_modify (hkeeps.token token)
  have hnegotiate : Throws R I F (negotiate cfg) := by
    refine Throws.bind .get fun s₀ => ?_
    intro s P h hI
    unfold post
    rw [wp_bind, wp_perform]
    refine ⟨hthrows.block s P _ rfl hI, fun s P r hinv hres => ?_⟩
    obtain ⟨hI, hF⟩ := hthrows.resume s P _ r rfl hinv hres
    rcases r with e | response
    · refine ⟨hI, fun e' hr => ?_⟩
      cases hr
      exact hF e rfl
    -- a response that cannot be used raises here, and nothing of it is stored
    · simp only [wp_bind, wp_get, wp_ofExcept]
      cases hresult : negotiated cfg.urllib cfg.str s.url response with
      | error e =>
          refine ⟨hI, fun e' hr => ?_⟩
          cases hr
          refine hF e ?_
          simp only [restartError, hresult]
      | ok result => exact ⟨(hkeeps.redirect _ _).apply hI, fun _ hr => by cases hr⟩
  have hcreate : Throws R I F createApp :=
    fun s P h hI => ⟨hkeeps.create s P h hI, fun _ hr => by cases hr⟩
  exact Throws.bind hrefresh fun _ => Throws.bind (Throws.when fun _ => hnegotiate) fun _ =>
    Throws.bind .get fun _ => Throws.when fun _ =>
      Throws.bind (throws_setState hkeeps.connecting) fun _ => hcreate

/-- `reconnect` raises the exception of the step that failed, at once. -/
theorem throws_reconnect (hkeeps : KeepsRestart R I) (hthrows : ThrowsRestart R I F cfg) :
    Throws R I F (reconnect cfg) :=
  Throws.bind (throws_stopLost hkeeps hthrows) fun _ =>
    Throws.bind (throws_killGreenlet hkeeps hthrows) fun _ =>
      Throws.bind (throws_of_keeps_modify hkeeps.handshakeReceived) fun _ =>
        Throws.bind (throws_of_keeps_modify hkeeps.restarts) fun _ => throws_start hkeeps hthrows

theorem throws_reconnectionHandler
    (hnone : ∀ s P, I s P → s.reconnectionHandler = none → F' .attributeError s P) :
    Throws R I F' reconnectionHandler := by
  refine Throws.get_bind fun s P h hI => ?_
  cases hhandler : s.reconnectionHandler with
  | none =>
      refine ⟨hI, fun e hr => ?_⟩
      cases hr
      exact hnone s P hI hhandler
  | some handler => exact ⟨hI, fun _ hr => by cases hr⟩

/-- The call of `on_reconnect`, if it is due, and the assignment behind it. -/
def announce (handler : ReconnectionHandler) (s : State) : Hub Unit := do
  when (!handler.reconnecting && s.onReconnect) reportReconnect
  setReconnecting true

/-- `handle_reconnect` announces what it does, and does it. -/
theorem wp_announce {s : State} {P : Multiset (Label Op Activity)}
    {h : List (Logged State Exc Op Op.Result)} {Q : Post State Exc Op Op.Result Activity Unit}
    (hnone : s.reconnectionHandler = none → Q (.error .attributeError) s P h)
    (hannounce : ∀ handler, s.reconnectionHandler = some handler →
      (announce handler s).wp R (fun r s P h =>
        match r with
        | .ok _ => ((reconnect cfg).tryCatch deferReconnect).wp R Q s P h
        | .error e => Q (.error e) s P h) s P h) :
    (handleReconnect cfg).wp R Q s P h := by
  unfold handleReconnect reconnectionHandler
  simp only [wp_bind, wp_get]
  cases hhandler : s.reconnectionHandler with
  | none => exact hnone hhandler
  | some handler =>
      have hannounced := hannounce handler hhandler
      unfold announce at hannounced
      rw [wp_bind] at hannounced
      simp only [Option.elim_some, wp_pure]
      refine wp_mono ?_ hannounced
      rintro (e | _) s P h hpost
      · exact hpost
      · refine wp_mono ?_ hpost
        rintro (e | _) s P h hpost <;> exact hpost

/-- `handle_reconnect`, where `deferReconnect` takes what `reconnect` raises. -/
theorem wp_handleReconnect {J : HubInv}
    (hnone : ∀ s P, J s P → s.reconnectionHandler = none → I s P ∧ F' .attributeError s P)
    (hannounce : ∀ s P h handler, J s P → s.reconnectionHandler = some handler →
      (announce handler s).wp R (fun r s P _ => I s P ∧ ∀ e, r = .error e → F' e s P) s P h)
    (hreconnect : Throws R I F (reconnect cfg))
    (hdefer : ∀ e s P h, I s P → F e s P → (deferReconnect e).wp R
      (fun r s P _ => I s P ∧ ∀ e, r = .error e → F' e s P) s P h)
    {s : State} {P : Multiset (Label Op Activity)} {h : List (Logged State Exc Op Op.Result)}
    (hJ : J s P) :
    (handleReconnect cfg).wp R (fun r s P _ => I s P ∧ ∀ e, r = .error e → F' e s P) s P h := by
  refine wp_announce (fun hnone' => ⟨(hnone s P hJ hnone').1, fun e hr => ?_⟩) fun handler hsome => ?_
  · cases hr
    exact (hnone s P hJ hnone').2
  · refine wp_mono ?_ (hannounce s P h handler hJ hsome)
    rintro (e | _) s P h ⟨hI, hF'⟩
    · exact ⟨hI, fun e' hr => by cases hr; exact hF' e rfl⟩
    · exact Throws.tryCatch hreconnect hdefer s P h hI

/-- `stopLost`, for a property that holds as long as it does not raise. -/
theorem wp_stopLost {Q : Post State Exc Op Op.Result Activity Unit}
    (hchecker : Keeps R I ConnectionStateChecker.stop)
    (hclosing : ∀ app, Keeps R I (setApp app fun a => { a with closing := true }))
    (hblock : ∀ s P app, I s P → R.inv s (.blocked R.me (.wsClose app .reconnect) ::ₘ P))
    (hresume : ∀ s P h app r, R.inv s (.blocked R.me (.wsClose app .reconnect) ::ₘ P) →
      R.resume s P (.wsClose app .reconnect) r →
        match r with
        | .ok _ => I s P
        | .error e => if e = .connectionClosed then I s P else Q (.error e) s P h)
    (hclosed : ∀ app, Keeps R I (setApp app fun a => { a with closed := true }))
    (hstate : Keeps R I (setState .disconnected))
    (hhandshake : Keeps R I (setHandshakeReceived false))
    (hdone : ∀ s P h, I s P → Q (.ok ()) s P h)
    {s : State} {P : Multiset (Label Op Activity)} {h : List (Logged State Exc Op Op.Result)}
    (hI : I s P) : stopLost.wp R Q s P h := by
  -- the websocket is the one that is stored when `close` is reached
  have hclose : ∀ (stored : Option Nat) s P h, I s P →
      (stored.elim (pure ()) fun app => do
        setApp app fun a => { a with closing := true }
        perform (Op.wsClose app .reconnect)
        setApp app fun a => { a with closed := true } : Hub Unit).wp R (fun r s P h =>
          match r with
          | .ok _ => I s P
          | .error e => if e = .connectionClosed then I s P else Q (.error e) s P h) s P h := by
    intro stored s P h hI
    cases stored with
    | none => exact hI
    | some app =>
        unfold setApp
        simp only [Option.elim_some, wp_bind, wp_modify]
        rw [wp_perform]
        refine ⟨hblock _ P app ((hclosing app).apply hI), fun s P r hinv hres => ?_⟩
        have hpost := fun h => hresume s P h app r hinv hres
        rcases r with e | _
        · exact hpost _
        · exact (hclosed app).apply (hpost h)
  unfold stopLost Connection.stop stop ConnectionStateChecker.stop closeWs
  rw [wp_tryCatch, wp_bind, wp_get]
  dsimp only
  rw [wp_when]
  split_ifs
  · rw [wp_bind, wp_modify, wp_bind, wp_bind, wp_get]
    refine wp_mono ?_ (hclose s.ws _ P h (hchecker.apply hI))
    rintro (e | _) s P h hpost
    · dsimp only at hpost ⊢
      split_ifs at hpost ⊢
      · rw [setState_disconnected] at hstate ⊢
        exact hdone _ P h (hstate.apply hpost)
      · exact hpost
    · rw [setState_disconnected] at hstate ⊢
      exact hdone _ P h (hhandshake.apply (hstate.apply hpost))
  · exact hdone s P h hI

/-- A restart is recorded. -/
abbrev restarting (s : State) : State :=
  { s with
    handshakeReceived := false
    history := { s.history with
      ownHandshake := false
      restarts := s.history.restarts ++ [s.history.accepted.length] } }

/-- `reconnect`, for a property that holds up to its `kill`. -/
theorem wp_reconnect {Q : Post State Exc Op Op.Result Activity Unit}
    (hstop : ∀ s P h, I s P → stopLost.wp R (fun r s P h =>
      match r with
      | .ok _ => I s P
      | .error e => Q (.error e) s P h) s P h)
    (hnone : ∀ s P h, I s P → s.greenlet = none → Q (.error .attributeError) s P h)
    (hkilled : ∀ app, Keeps R I (killApp app))
    (hblock : ∀ s P app, I s P → s.greenlet ≠ none → R.inv s (.blocked R.me (.kill app) ::ₘ P))
    (hresume : ∀ s P h app r, R.inv s (.blocked R.me (.kill app) ::ₘ P) →
      R.resume s P (.kill app) r →
        match r with
        | .ok _ => (Connection.start cfg).wp R Q (restarting s) P h
        | .error e => Q (.error e) s P h)
    {s : State} {P : Multiset (Label Op Activity)} {h : List (Logged State Exc Op Op.Result)}
    (hI : I s P) : (reconnect cfg).wp R Q s P h := by
  unfold reconnect
  rw [wp_bind]
  refine wp_mono ?_ (hstop s P h hI)
  rintro (e | _) s P h hI
  · exact hI
  unfold killGreenlet
  simp only [wp_bind, wp_get]
  cases hgreenlet : s.greenlet with
  | none => exact hnone s P h hI hgreenlet
  | some app =>
      have hkill : Keeps R I (killApp app) := hkilled app
      unfold killApp record setApp at hkill
      unfold killApp record setApp setHandshakeReceived
      simp only [Option.elim_some, wp_bind, wp_get, wp_modify]
      rw [wp_perform]
      have hI' := hkill s P h hI
      simp only [wp_bind, wp_get, wp_modify] at hI'
      refine ⟨hblock _ P app hI' (by simp [hgreenlet]), fun s P r hinv hres => ?_⟩
      have hpost := fun h => hresume s P h app r hinv hres
      rcases r with e | _ <;> exact hpost _

theorem throws_handleReconnect
    (hnone : ∀ s P, I s P → s.reconnectionHandler = none → F' .attributeError s P)
    (hreport : Throws R I F' reportReconnect)
    (hset : Keeps R I (setHandler fun handler => { handler with reconnecting := true }))
    (hreconnect : Throws R I F (reconnect cfg))
    (hdefer : ∀ e s P h, I s P → F e s P → (deferReconnect e).wp R
      (fun r s P _ => I s P ∧ ∀ e, r = .error e → F' e s P) s P h) :
    Throws R I F' (handleReconnect cfg) := by
  have hannounce : ∀ handler s, Throws R I F' (announce handler s) := fun handler s =>
    Throws.bind (Throws.when fun _ => hreport) fun _ =>
      Throws.bind (throws_reconnectionHandler hnone) fun _ => throws_of_keeps_modify hset
  exact fun s P h hI => wp_handleReconnect (fun s P hI hnone' => ⟨hI, hnone s P hI hnone'⟩)
    (fun s P h handler hI _ => hannounce handler s s P h hI) hreconnect hdefer hI

/-- The `except` clause of `handle_reconnect`, where `next` of the handler returns. -/
theorem wp_deferReconnect {e : Exc} {s : State} {P : Multiset (Label Op Activity)}
    {h : List (Logged State Exc Op Op.Result)} {Q : Post State Exc Op Op.Result Activity Unit}
    (hraise : e.isException = false → Q (.error e) s P h)
    (hnone : e.isException = true → s.reconnectionHandler = none → Q (.error .attributeError) s P h)
    (hnext : ∀ handler, e.isException = true → s.reconnectionHandler = some handler →
      ∀ s', s' = { s with
        reconnectionHandler := some handler.next.1
        history := { s.history with exhausted := s.history.exhausted || !handler.next.2.isOk } } →
      match handler.next.2 with
      | .ok sleepTime => Q (.ok ()) s' (.ready (.deferredReconnect sleepTime) ::ₘ P) h
      | .error e => Q (.error e) s' P h) :
    (deferReconnect e).wp R Q s P h := by
  unfold deferReconnect nextSleepTime reconnectionHandler setHandler record
  by_cases he : e.isException = true
  · cases hhandler : s.reconnectionHandler with
    | none => simpa [he, hhandler] using hnone he hhandler
    | some handler =>
        have hend := hnext handler he hhandler _ rfl
        simp only [he, if_true, wp_bind, wp_get, hhandler, Option.elim_some, wp_pure, wp_modify,
          Option.map_some, wp_ofExcept]
        cases hresult : handler.next.2 with
        | error e' => simpa [hresult] using hend
        | ok sleepTime => simpa [hresult] using hend
  · simpa [he] using hraise (by simpa using he)

/-! ## Sending -/

/-- A message is handed to a websocket. -/
abbrev handing (app : Nat) (message : Outgoing) (s : State) : State :=
  { s with history := { s.history with
    handed := s.history.handed ++ [⟨app, message, s.history.accepted.contains app⟩] } }

/-- A write has failed. -/
abbrev failing (app : Nat) (e : Exc) (s : State) : State :=
  { s with apps := s.apps.modify app fun a => { a with lost := a.lost || e.isConnectionLost } }

/-- A write has succeeded. -/
abbrev succeeding (s : State) : State :=
  { s with lastMessage := s.now, reconnectionHandler := s.reconnectionHandler.map (·.reset) }

/-- A connection was lost. -/
abbrev down (s : State) : State :=
  { s with
    handshakeReceived := false
    state := .disconnected
    history := { s.history with ownHandshake := false, ownState := .disconnected } }

/-- What `send` does up to the end of its write, where a lost connection leaves a property of
its own. -/
structure SendRule (R : HubRely) (I J : HubInv) (F : Exc → HubInv) (cfg : Config)
    (message : Outgoing) : Prop where
  unstored : ∀ s P, I s P → s.ws = none → F (.valueError "no websocket.WebSocketApp running") s P
  encode : ∀ s P e, I s P → cfg.protocol.encode message = .error e → F e s P
  block : ∀ s P app, I s P → s.ws = some app →
    R.inv (handing app message s) (.blocked R.me (.wsSend app message) ::ₘ P)
  written : ∀ s P app, R.inv s (.blocked R.me (.wsSend app message) ::ₘ P) →
    R.resume s P (.wsSend app message) (.ok ()) → I (succeeding s) P
  lost : ∀ s P app e, R.inv s (.blocked R.me (.wsSend app message) ::ₘ P) →
    R.resume s P (.wsSend app message) (.error e) → e.isConnectionLost = true →
      J (failing app e s) P
  failed : ∀ s P app e, R.inv s (.blocked R.me (.wsSend app message) ::ₘ P) →
    R.resume s P (.wsSend app message) (.error e) → e.isConnectionLost = false →
      I (failing app e s) P ∧ F e (failing app e s) P

theorem throws_send {J : HubInv} {message : Outgoing} (rule : SendRule R I J F cfg message)
    (hconnection : ∀ e s P h, J s P → (connectionLost cfg e).wp R
      (fun r s P _ => I s P ∧ ∀ e, r = .error e → F e s P) s P h) :
    Throws R I F (send cfg message) := by
  intro s P h hI
  have hraise : ∀ (e : Exc) s P h, I s P → F e s P →
      (raise e : Hub Unit).wp R (fun r s P _ => I s P ∧ ∀ e, r = .error e → F e s P) s P h := by
    rintro e s P h hI hF
    refine ⟨hI, fun e' hr => ?_⟩
    cases hr
    exact hF
  unfold send transmit ws write record
  simp only [wp_tryCatch, wp_bind, wp_get]
  cases hstored : s.ws with
  | none => exact hraise _ s P h hI (rule.unstored s P hI hstored)
  | some app =>
      simp only [Option.elim_some, wp_pure, wp_ofExcept]
      cases hencode : cfg.protocol.encode message with
      | error e =>
          simp only [cfg.protocol.encode_error hencode]
          exact hraise e s P h hI (rule.encode s P e hI hencode)
      | ok raw =>
          simp only [wp_modify]
          rw [wp_perform]
          refine ⟨rule.block s P app hI hstored, fun s P r hinv hres => ?_⟩
          -- a lost connection goes to the handler, any other exception to the caller
          rcases r with e | _
          · simp only [setApp, wp_modify, wp_raise]
            by_cases he : e.isConnectionLost = true
            · simp only [he, if_true]
              have hJ := rule.lost s P app e hinv hres he
              rw [failing, he] at hJ
              exact hconnection e _ P _ hJ
            · have hfalse : e.isConnectionLost = false := by simpa using he
              simp only [hfalse]
              have hfailed := rule.failed s P app e hinv hres hfalse
              rw [failing, hfalse] at hfailed
              exact hraise e _ P _ hfailed.1 hfailed.2
          · exact ⟨rule.written s P app hinv hres, fun _ hr => by cases hr⟩

/-- The first `except` clause of `send`. -/
theorem wp_connectionLost {e : Exc} {s : State} {P : Multiset (Label Op Activity)}
    {h : List (Logged State Exc Op Op.Result)} {Q : Post State Exc Op Op.Result Activity Unit}
    (hlost : s.reconnectionHandler = none → (reportLost e).wp R Q (down s) P h)
    (hreconnect : s.reconnectionHandler ≠ none → (handleReconnect cfg).wp R Q (down s) P h) :
    (connectionLost cfg e).wp R Q s P h := by
  unfold connectionLost setHandshakeReceived
  rw [setState_disconnected]
  simp only [wp_bind, wp_modify, wp_get]
  split_ifs with hnone
  · exact hlost (Option.isNone_iff_eq_none.mp hnone)
  · exact hreconnect fun hnone' => hnone (Option.isNone_iff_eq_none.mpr hnone')

/-! ## The end of a start -/

/-- The part of `start` behind its operations: a transport that is not connected creates a
websocket. -/
def finishStart : Hub Unit := do
  let s ← get
  when (s.state ≠ .connected) do
    setState .connecting
    createApp

/-- What `start` does, for a property that holds until it creates a websocket, and one that
holds just before. -/
structure StartRule (R : HubRely) (I K : HubInv) (Q : Post State Exc Op Op.Result Activity Unit)
    (cfg : Config) : Prop where
  headers : ∀ s P url headers oldHeaders, I s P → I { s with url, headers, oldHeaders } P
  ready : ∀ s P url headers oldHeaders, K s P → K { s with url, headers, oldHeaders } P
  auth_block : ∀ s P, I s P → R.inv s (.blocked R.me (.auth .start) ::ₘ P)
  auth : ∀ s P h r, R.inv s (.blocked R.me (.auth .start) ::ₘ P) →
    R.resume s P (.auth .start) r →
      match r with
      | .ok _ => I s P ∧ (cfg.skipNegotiation = true → K s P)
      | .error e => Q (.error e) s P h
  post_block : ∀ s P url headers, I s P → R.inv s (.blocked R.me (.post url headers) ::ₘ P)
  post : ∀ s P h url headers r, R.inv s (.blocked R.me (.post url headers) ::ₘ P) →
    R.resume s P (.post url headers) r →
      match r with
      | .ok response =>
          match negotiated cfg.urllib cfg.str s.url response with
          | .ok _ => I s P ∧ K s P
          | .error e => Q (.error e) s P h
      | .error e => Q (.error e) s P h
  finish : ∀ s P h, I s P → K s P → finishStart.wp R Q s P h

variable {K : HubInv} {Q : Post State Exc Op Op.Result Activity Unit} {s : State}
  {P : Multiset (Label Op Activity)} {h : List (Logged State Exc Op Op.Result)}

theorem wp_negotiate (rule : StartRule R I K Q cfg) (hI : I s P) :
    (negotiate cfg >>= fun _ => finishStart).wp R Q s P h := by
  unfold negotiate GeventSignalR.post
  simp only [wp_bind, wp_get]
  rw [wp_perform]
  refine ⟨rule.post_block s P _ _ hI, fun s P r hinv hres => ?_⟩
  have hpost := fun h => rule.post s P h _ _ r hinv hres
  rcases r with e | response
  · exact hpost _
  · simp only [wp_ofExcept]
    cases hresult : negotiated cfg.urllib cfg.str s.url response with
    | error e =>
        simp only [hresult] at hpost
        exact hpost _
    | ok result =>
        simp only [hresult] at hpost
        exact rule.finish _ P _ (rule.headers s P _ _ _ (hpost h).1)
          (rule.ready s P _ _ _ (hpost h).2)

theorem wp_transportStart (rule : StartRule R I K Q cfg) (hI : I s P)
    (hK : cfg.skipNegotiation = true → K s P) : (start cfg).wp R Q s P h := by
  show (when (!cfg.skipNegotiation) (negotiate cfg) >>= fun _ => finishStart).wp R Q s P h
  cases hskip : cfg.skipNegotiation with
  | true => exact rule.finish s P h hI (hK hskip)
  | false => exact wp_negotiate rule hI

/-- `start`, from where the first property holds, and the second one if nothing blocks
it. -/
theorem wp_start (rule : StartRule R I K Q cfg) (hI : I s P)
    (hK : cfg.auth = false → cfg.skipNegotiation = true → K s P) :
    (Connection.start cfg).wp R Q s P h := by
  unfold Connection.start Connection.refreshTokenMaybe authFunction
  rw [wp_bind, wp_when]
  split_ifs with hauth
  · rw [wp_bind, wp_perform]
    refine ⟨rule.auth_block s P hI, fun s P r hinv hres => ?_⟩
    have hpost := fun h => rule.auth s P h r hinv hres
    rcases r with e | token
    · exact hpost _
    · cases token with
      | none => exact wp_transportStart rule (hpost h).1 (hpost h).2
      | some token =>
          exact wp_transportStart rule (rule.headers s P s.url _ s.oldHeaders (hpost h).1)
            fun hskip => rule.ready s P s.url _ s.oldHeaders ((hpost h).2 hskip)
  · exact wp_transportStart rule hI (hK (by simpa using hauth))

end WebsocketTransport

end GeventSignalR
