import GeventSignalR.Hub.ClientStream
import GeventSignalR.Hub.Delivery
import GeventSignalR.Hub.Restart
import GeventSignalR.Hub.Shape

/-!
# What a call raises

The exceptions that leave the calls of the package, as long as the functions of the user return.

* `raisable` are the exceptions of the operations, `Returning` the runs in which no user function
  raises.
* `Furnished`: a connection has a reconnection handler from its beginning to its end, or none.
* `Contract` are the exceptions that a call may let through, in terms of what it has done and of the
  state it leaves: its request, the response to it, its message.  A lost connection and a failed
  request are none of those of `send`: `handle_reconnect` takes care of them, or they become a
  `ValueError`.
* `contract_reach`: in every run no call raises anything else.
-/

namespace GeventSignalR

open Coop Coop.Prog WebsocketTransport

/-- A function of the user raises. -/
def isUserError : (op : Op) → Except Exc op.Result → Bool
  | .auth _, .error e => e.isException
  | .callback _, .error e => e.isException
  | _, _ => false

/-- No function of the user raises. -/
def Returning : Cond State Exc Op Op.Result Activity where
  fork := fun _ _ _ => True
  start := fun _ _ _ => True
  resume := fun _ _ _ op r => isUserError op r = false

instance : System.Decides Returning where
  fork := fun _ _ _ => isTrue trivial
  start := fun _ _ _ => isTrue trivial
  resume := fun _ _ _ op r => inferInstanceAs (Decidable (isUserError op r = false))

/-- What an operation raises. -/
def raisable : Op → Exc → Bool
  | .wsSend .., e => e.isConnectionLost
  | .wsClose .., e => e.isConnectionLost
  | .post .., e => e.isOSError
  | _, _ => false

/-- There is a reconnection handler if and only if one was configured. -/
abbrev Furnished (cfg : Config) : HubInv :=
  fun s _ => s.reconnectionHandler.isSome = cfg.reconnection.isSome

/-- What the proof assumes. -/
abbrev returning (cfg : Config) (t : Activity) : HubRely :=
  (hub cfg).rely (Returning.and (.within (ShapedInv cfg))) (Furnished cfg) t

/-- The exception is one of these, if it is an `Exception`. -/
abbrev Raised (C : State → Exc → Prop) : Exc → HubInv :=
  fun e s _ => e.isException = true → C s e

/-- The program raises nothing but these exceptions, which may depend on the state it leaves. -/
abbrev RaisesOnly (cfg : Config) (t : Activity) (C : State → Exc → Prop) {α : Type} (p : Hub α) :
    Prop :=
  Throws (returning cfg t) (Furnished cfg) (Raised C) p

/-! ## Contracts -/

/-- `start` fails: its last operation is the negotiate request, and the request failed, or the
response to it is refused. -/
def Unstarted (cfg : Config) (s : State) (h : Operations) (e : Exc) : Prop :=
  ∃ s' r, h.getLast? =
      some ⟨s', .post (WebsocketTransport.getNegotiateUrl cfg.urllib cfg.url) s'.headers, r⟩ ∧
    (r = .error e ∧ e.isOSError = true ∨
      ∃ response, r = .ok response ∧ negotiated cfg.urllib cfg.str s.url response = .error e)

/-- A call that sends fails: there is no websocket, the connection is lost for good, or the message
of the call cannot be encoded. -/
def Unsent (cfg : Config) (t : Activity) (s : State) (e : Exc) : Prop :=
  (∃ text, e = .valueError text) ∨
    ∃ message, messageOf s t = some message ∧ cfg.protocol.encode message = .error e

/-- A method of a subject fails: there is no such subject, or its message is not sent. -/
def Unserved (cfg : Config) (t : Activity) (s : State) (e : Exc) : Prop :=
  e = .attributeError ∨ Unsent cfg t s e

/-- The exceptions that a call lets through, with the state it leaves and the operations it has
performed.  An `AttributeError` says that there is no such object. -/
def Contract (cfg : Config) (t : Activity) (s : State) (h : Operations) (e : Exc) : Prop :=
  match t with
  | .start => Unstarted cfg s h e
  | .stop => e.isConnectionLost = true
  | .send _ (.list _) .. => (∃ text, e = .hubConnectionError text) ∨ Unsent cfg t s e
  | .send _ (.subject _) .. => (∃ text, e = .hubConnectionError text) ∨ Unserved cfg t s e
  | .send _ .other .. => (∃ text, e = .hubConnectionError text) ∨ e = .typeError
  | .stream .. => Unsent cfg t s e
  | .next .. => Unserved cfg t s e
  | .complete _ => Unserved cfg t s e
  | .subscribe .. => e = .typeError ∨ (∃ text, e = .valueError text) ∨
      (∃ key, e = .keyError key) ∨ e = .attributeError
  | .checkerRun => ∃ text, e = .valueError text
  | _ => False

variable {cfg : Config} {t : Activity} {C D : State → Exc → Prop}

/-! ## Leaves -/

theorem Hub.raisable_of_possible {s : State} {op : Op} {e : Exc}
    (h : (hub cfg).Possible s op (.error e)) (hreturning : isUserError op (.error e) = false)
    (he : e.isException = true) : raisable op e = true := by
  obtain ⟨root, answer, hdecode⟩ := h
  simp only [hub, decode] at hdecode
  split at hdecode
  all_goals try split at hdecode
  all_goals try split_ifs at hdecode
  all_goals try cases hdecode
  -- the answers that raise: a kill, three kinds of failures, and the functions of the user
  · cases he
  · assumption
  · assumption
  · assumption
  · exact absurd he (by simpa [isUserError] using hreturning)
  · exact absurd he (by simpa [isUserError] using hreturning)

theorem raises_modify {f : State → State}
    (hf : ∀ s, (f s).reconnectionHandler.isSome = s.reconnectionHandler.isSome) :
    RaisesOnly cfg t C (modify f : Hub Unit) :=
  Throws.modify fun s _ h => (hf s).trans h

theorem raises_perform {op : Op} (hop : ∀ s e, raisable op e = true → C s e) :
    RaisesOnly cfg t C (perform op) := by
  refine Throws.perform (fun _ _ h => h) fun s P r hI hresume => ⟨hI, ?_⟩
  rintro e rfl he
  exact hop s e (Hub.raisable_of_possible hresume.2 hresume.1.1 he)

/-- An operation that raises nothing. -/
theorem raises_quiet {op : Op} (hop : ∀ e, raisable op e = false) :
    RaisesOnly cfg t C (perform op) :=
  raises_perform fun _ e h => by rw [hop e] at h; cases h

theorem raises_raise {α : Type} {e : Exc} (he : ∀ s, C s e) :
    RaisesOnly cfg t C (raise e : Hub α) :=
  Throws.raise fun s _ _ _ => he s

/-- The end of a greenlet that is killed is passed on. -/
theorem raises_end {α : Type} {e : Exc} (hexit : ¬e.isException = true) :
    RaisesOnly cfg t C (raise e : Hub α) :=
  Throws.raise fun _ _ _ he => absurd he hexit

theorem raises_fork (t' : Activity) : RaisesOnly cfg t C (fork t' : Hub Unit) :=
  Throws.fork fun _ _ h => h

theorem raises_ite {α : Type} {c : Prop} [Decidable c] {p q : Hub α}
    (hp : c → RaisesOnly cfg t C p) (hq : ¬c → RaisesOnly cfg t C q) :
    RaisesOnly cfg t C (if c then p else q) := by
  split
  · exact hp ‹_›
  · exact hq ‹_›

theorem raises_elim {α β : Type} {o : Option β} {p : Hub α} {q : β → Hub α}
    (hp : RaisesOnly cfg t C p) (hq : ∀ b, RaisesOnly cfg t C (q b)) :
    RaisesOnly cfg t C (o.elim p q) := by
  cases o with
  | none => exact hp
  | some b => exact hq b

/-- The exceptions that leave the handler are its own. -/
theorem raises_tryCatch {α : Type} {p : Hub α} {handler : Exc → Hub α} (hp : RaisesOnly cfg t C p)
    (hhandler : ∀ e, RaisesOnly cfg t D (handler e)) : RaisesOnly cfg t D (p.tryCatch handler) :=
  Throws.tryCatch hp fun e s P h hI _ => hhandler e s P h hI

/-- `finally` with an assignment. -/
theorem raises_finally {α : Type} {p : Hub α} {f : State → State} (hp : RaisesOnly cfg t C p)
    (hf : ∀ s, (f s).reconnectionHandler.isSome = s.reconnectionHandler.isSome)
    (hC : ∀ s e, C s e → C (f s) e) : RaisesOnly cfg t C (p.finally_ (modify f)) := by
  intro s P h hI
  rw [wp_finally]
  refine wp_mono (fun r s P h hr => ?_) (hp s P h hI)
  rw [wp_modify]
  exact ⟨(hf s).trans hr.1, fun e he hexc => hC s e (hr.2 e he hexc)⟩

/-- Any exception is one of all. -/
theorem raises_of_keeps {α : Type} {p : Hub α} (hp : Keeps (returning cfg t) (Furnished cfg) p) :
    RaisesOnly cfg t (fun _ _ => True) p :=
  fun s P h hI => wp_mono (fun _ _ _ _ h => ⟨h, fun _ _ _ => trivial⟩) (hp s P h hI)

/-- Fewer exceptions are among more. -/
theorem raises_mono {α : Type} {p : Hub α} (hp : RaisesOnly cfg t C p)
    (hCD : ∀ s e, C s e → D s e) : RaisesOnly cfg t D p :=
  hp.mono fun e s _ _ h he => hCD s e (h he)

theorem furnished_off : OffTransport (returning cfg t) (Furnished cfg) where
  congr := fun {s s' P} h hs => by
    have hsame := congrArg (fun s => s.reconnectionHandler.isSome) hs
    simp only [offTransport, offSocket, Option.isSome_map] at hsame
    exact hsame.trans h
  perform := fun _ => Keeps.perform (fun _ _ h => h) fun _ _ _ h _ => h
  fork := fun _ => Keeps.fork fun _ _ h => h

/-! ## The transport -/

theorem raises_setState (value : ConnectionState) : RaisesOnly cfg t C (setState value) :=
  Throws.bind (raises_modify fun _ => rfl) fun _ => Throws.when fun _ => raises_modify fun _ => rfl

theorem raises_setHandler (f : ReconnectionHandler → ReconnectionHandler) :
    RaisesOnly cfg t C (setHandler f) :=
  raises_modify fun _ => Option.isSome_map

theorem raises_refreshTokenMaybe (site : AuthSite) :
    RaisesOnly cfg t C (Connection.refreshTokenMaybe cfg site) :=
  Throws.when fun _ => Throws.bind (raises_quiet fun _ => rfl) fun _ =>
    raises_elim (.pure _) fun _ => raises_modify fun _ => rfl

theorem raises_reconnectionHandler (hsome : cfg.reconnection.isSome = true) :
    Throws (returning cfg t) (Furnished cfg) (Raised C) reconnectionHandler := by
  refine throws_reconnectionHandler fun s P hI hnone => ?_
  rw [Furnished, hnone, hsome] at hI
  cases hI

theorem raises_setReconnecting (hsome : cfg.reconnection.isSome = true) (value : Bool) :
    RaisesOnly cfg t C (setReconnecting value) :=
  Throws.bind (raises_reconnectionHandler hsome) fun _ => raises_setHandler _

/-- The reconnection handler gives up. -/
theorem ReconnectionHandler.next_error {handler : ReconnectionHandler} {e : Exc}
    (h : handler.next.2 = .error e) : ∃ text, e = .valueError text := by
  rcases handler with ⟨⟨sleepTime, _ | maxAttempts⟩ | intervals, reconnecting, attemptNumber⟩
  · cases h
  · simp only [ReconnectionHandler.next] at h
    split_ifs at h
    cases h
    exact ⟨_, rfl⟩
  · simp only [ReconnectionHandler.next] at h
    split at h
    · cases h
    · cases h
      exact ⟨_, rfl⟩

/-- Whatever fails in a reconnect, what leaves is that the handler gives up. -/
theorem raises_handleReconnect (hsome : cfg.reconnection.isSome = true) :
    RaisesOnly cfg t (fun _ e => ∃ text, e = .valueError text) (handleReconnect cfg) := by
  have hreport : RaisesOnly cfg t (fun _ e => ∃ text, e = .valueError text) reportReconnect :=
    Throws.bind (raises_modify fun _ => rfl) fun _ => raises_quiet fun _ => rfl
  have hnext : RaisesOnly cfg t (fun _ e => ∃ text, e = .valueError text) nextSleepTime :=
    Throws.bind (raises_reconnectionHandler hsome) fun _ =>
      Throws.bind (raises_setHandler _) fun _ => Throws.bind (raises_modify fun _ => rfl) fun _ =>
        Throws.ofExcept fun _ h _ _ _ _ => ReconnectionHandler.next_error h
  have hreconnect : RaisesOnly cfg t (fun _ _ => True) (reconnect cfg) :=
    raises_of_keeps furnished_off.reconnect
  refine Throws.bind (raises_reconnectionHandler hsome) fun _ => Throws.bind .get fun _ =>
    Throws.bind (Throws.when fun _ => hreport) fun _ =>
      Throws.bind (raises_setReconnecting hsome _) fun _ => raises_tryCatch hreconnect fun e => ?_
  exact raises_ite (fun _ => Throws.bind hnext fun _ => raises_fork _) raises_end

theorem raises_connectionLost (e : Exc) :
    RaisesOnly cfg t (fun _ e => ∃ text, e = .valueError text) (connectionLost cfg e) := by
  refine Throws.bind (raises_modify fun _ => rfl) fun _ => Throws.bind (raises_setState _)
    fun _ => Throws.get_bind fun s P h hI => ?_
  cases hhandler : s.reconnectionHandler with
  | none =>
      have hreport : RaisesOnly cfg t (fun _ e => ∃ text, e = .valueError text) (reportLost e) :=
        Throws.bind .get fun _ => Throws.bind (Throws.when fun _ => raises_quiet fun _ => rfl)
          fun _ => raises_raise fun _ => ⟨_, rfl⟩
      exact hreport s P h hI
  | some handler =>
      have hsome : cfg.reconnection.isSome = true := by
        rw [← show s.reconnectionHandler.isSome = cfg.reconnection.isSome from hI, hhandler]
        rfl
      exact raises_handleReconnect hsome s P h hI

/-- A write that fails because the connection is lost is none of the exceptions of `send`. -/
theorem raises_send {message : Outgoing} {raw : Raw}
    (hencode : cfg.protocol.encode message = .ok raw) :
    RaisesOnly cfg t (fun _ e => ∃ text, e = .valueError text)
      (WebsocketTransport.send cfg message) := by
  let failure : State → Exc → Prop := fun _ e =>
    (∃ text, e = .valueError text) ∨ e.isConnectionLost = true
  have hwrite : ∀ app, RaisesOnly cfg t failure (write app message) := by
    intro app
    have hperform : RaisesOnly cfg t failure (perform (Op.wsSend app message)) :=
      raises_perform fun _ _ h => .inr h
    refine Throws.bind (raises_modify fun _ => rfl) fun _ =>
      Throws.tryCatch hperform fun e s P h hI he => ?_
    have hagain : RaisesOnly cfg t failure (raise e : Hub Unit) := Throws.raise fun _ _ _ => he
    have hlost : RaisesOnly cfg t failure
        (setApp app fun a => { a with lost := a.lost || e.isConnectionLost }) :=
      raises_modify fun _ => rfl
    exact Throws.bind hlost (fun _ => hagain) s P h hI
  have htransmit : RaisesOnly cfg t failure (transmit cfg message) := by
    refine Throws.bind (Throws.bind .get fun _ => raises_elim
      (raises_raise fun _ => .inl ⟨_, rfl⟩) fun _ => .pure _) fun _ => ?_
    refine Throws.bind (Throws.ofExcept fun e h => ?_) fun _ => Throws.bind (hwrite _) fun _ =>
      Throws.bind (raises_modify fun _ => rfl) fun _ => raises_setHandler _
    rw [hencode] at h
    cases h
  refine Throws.tryCatch htransmit fun e s P h hI he => ?_
  refine raises_ite (fun _ => raises_connectionLost e) (fun hkept => ?_) s P h hI
  exact Throws.raise fun _ _ _ hexception => (he hexception).resolve_right hkept

/-- A message that cannot be encoded has not changed anything. -/
theorem wp_send_error {message : Outgoing} {e : Exc}
    (hencode : cfg.protocol.encode message = .error e) {s : State} {P : Multiset (Label Op Activity)} {h : Operations}
    {Q : Post State Exc Op Op.Result Activity Unit}
    (hvalue : ∀ text, Q (.error (.valueError text)) s P h) (herror : Q (.error e) s P h) :
    (WebsocketTransport.send cfg message).wp (returning cfg t) Q s P h := by
  unfold WebsocketTransport.send transmit ws
  simp only [wp_tryCatch, wp_bind, wp_get]
  cases s.ws with
  | none => exact hvalue _
  | some app =>
      simp only [Option.elim_some, wp_pure, wp_ofExcept, hencode, cfg.protocol.encode_error hencode]
      exact herror

/-- The message of a call, in the state that it is made of. -/
theorem unsent_send {message : Outgoing} {s : State} (hmessage : messageOf s t = some message)
    {P : Multiset (Label Op Activity)} (h : Operations) (hI : Furnished cfg s P) :
    (WebsocketTransport.send cfg message).wp (returning cfg t)
      (fun r s P _ => Furnished cfg s P ∧ ∀ e, r = .error e → Raised (Unsent cfg t) e s P)
      s P h := by
  cases hencode : cfg.protocol.encode message with
  | error e =>
      refine wp_send_error hencode (fun text => ⟨hI, fun e he _ => ?_⟩) ⟨hI, fun e he _ => ?_⟩
      · cases he
        exact .inl ⟨text, rfl⟩
      · cases he
        exact .inr ⟨message, hmessage, hencode⟩
  | ok raw => exact raises_mono (raises_send hencode) (fun _ _ => .inl) s P h hI

namespace Subject

theorem raises_object (subject : Nat) : RaisesOnly cfg t (Unserved cfg t) (object subject) :=
  Throws.bind .get fun _ => raises_elim (raises_raise fun _ => .inl rfl) fun _ => .pure _

/-- The message of a subject is made of the attributes that it has when it is sent. -/
theorem raises_message (subject : Nat) (message : Subject → Message)
    (hmessage : ∀ s object, s.subjects[subject]? = some object →
      messageOf s t = some (.hub (message object))) :
    RaisesOnly cfg t (Unserved cfg t)
      (object subject >>= fun object => send cfg subject (message object)) := by
  intro s P h hI
  unfold object
  simp only [wp_bind, wp_get]
  cases hobject : s.subjects[subject]? with
  | none => exact ⟨hI, fun e he _ => .inl (by cases he; rfl)⟩
  | some self =>
      simp only [Option.elim_some, wp_pure]
      unfold send record
      rw [wp_bind, wp_modify]
      refine wp_mono ?_ (unsent_send ?_ h ?_)
      · rintro r s P h ⟨hI, hunsent⟩
        exact ⟨hI, fun e he hexc => .inr (hunsent e he hexc)⟩
      · exact (messageOf_congr rfl rfl t).trans (hmessage s self hobject)
      · exact hI

/-- A lock that is given back changes nothing that a message is made of. -/
theorem messageOf_unlock (s : State) (subject : Nat) :
    messageOf { s with subjects := s.subjects.modify subject unlock } t = messageOf s t := by
  have hobject : ∀ {β : Type} (f : Subject → β), (∀ object, f (unlock object) = f object) →
      ∀ i : Nat, ((s.subjects.modify subject unlock)[i]?).map f = (s.subjects[i]?).map f := by
    intro β f hf i
    rw [List.getElem?_modify]
    cases s.subjects[i]? with
    | none => rfl
    | some object =>
        simp only [Option.map_eq_map, Option.map_some, Option.some.injEq]
        split_ifs
        · exact hf object
        · rfl
  unfold messageOf
  split <;> first | rfl | exact hobject _ (fun _ => rfl) _

theorem unserved_unlock {s : State} {subject : Nat} {e : Exc} (h : Unserved cfg t s e) :
    Unserved cfg t { s with subjects := s.subjects.modify subject unlock } e := by
  rcases h with h | h | ⟨message, hmessage, hencode⟩
  · exact .inl h
  · exact .inr (.inl h)
  · exact .inr (.inr ⟨message, (messageOf_unlock s subject).trans hmessage, hencode⟩)

/-- A method of a subject. -/
theorem raises_serve (subject : Nat) (message : Subject → Message)
    (hmessage : ∀ s object, s.subjects[subject]? = some object →
      messageOf s t = some (.hub (message object))) :
    RaisesOnly cfg t (Unserved cfg t) (withLock subject (serve cfg subject message)) := by
  have hconnection : RaisesOnly cfg t (Unserved cfg t) (connection subject) :=
    Throws.bind (raises_object subject) fun _ => Throws.when fun _ =>
      raises_raise fun _ => .inr (.inl ⟨_, rfl⟩)
  have hserve : RaisesOnly cfg t (Unserved cfg t) (serve cfg subject message) :=
    Throws.bind hconnection fun _ => raises_message subject message hmessage
  have htake : RaisesOnly cfg t (Unserved cfg t) (takeLock subject) :=
    Throws.bind (raises_modify fun _ => rfl) fun _ => raises_modify fun _ => rfl
  exact Throws.bind (raises_object subject) fun _ =>
    Throws.bind (Throws.when fun _ => raises_quiet fun _ => rfl) fun _ =>
      Throws.bind htake fun _ => raises_finally hserve (fun _ => rfl) fun _ _ => unserved_unlock

end Subject

namespace Connection

/-- A registration in front of the message. -/
theorem unsent_register {handler : Handler} {message : Outgoing} {s : State}
    (hmessage : messageOf s t = some message) {P : Multiset (Label Op Activity)} (h : Operations)
    (hI : Furnished cfg s P) :
    (register handler >>= fun _ => WebsocketTransport.send cfg message).wp (returning cfg t)
      (fun r s P _ => Furnished cfg s P ∧ ∀ e, r = .error e → Raised (Unsent cfg t) e s P)
      s P h := by
  unfold register record
  simp only [wp_bind, wp_modify]
  refine unsent_send ?_ h ?_
  · exact (messageOf_congr rfl rfl t).trans hmessage
  · exact hI

theorem raises_sendList (method : Value) (items : List Value) (onInvocation : Option Nat)
    (invocationId : Option String) (uuid : String) :
    RaisesOnly cfg (.send method (.list items) onInvocation invocationId uuid)
      (Unsent cfg (.send method (.list items) onInvocation invocationId uuid))
      (sendList cfg method items onInvocation (invocationId.getD uuid)) := by
  refine Throws.get_bind fun s P h hI => ?_
  cases onInvocation with
  | none => exact unsent_send rfl h hI
  | some callback => exact unsent_register rfl h hI

/-- `send`, up to its token. -/
theorem raises_sending {arguments : Arguments} {uuid : String} {p : Hub Unit}
    (hC : ∀ s text, C s (.hubConnectionError text))
    (htype : arguments.isListOrSubject = false → ∀ s, C s .typeError) (hp : RaisesOnly cfg t C p) :
    RaisesOnly cfg t C (do
      record fun h => { h with ids := h.ids ++ [uuid] }
      let s ← get
      when (!WebsocketTransport.isRunning s) (raise
        (.hubConnectionError "Cannot connect to SignalR hub. Unable to transmit messages"))
      when (!arguments.isListOrSubject) (raise .typeError)
      refreshTokenMaybe cfg .send
      p) :=
  Throws.bind (raises_modify fun _ => rfl) fun _ => Throws.bind .get fun _ =>
    Throws.bind (Throws.when fun _ => raises_raise fun s => hC s _) fun _ =>
      Throws.bind (Throws.when fun hnone => raises_raise (htype (by simpa using hnone))) fun _ =>
        Throws.bind (raises_refreshTokenMaybe _) fun _ => hp

theorem raises_send (method : Value) (arguments : Arguments) (onInvocation : Option Nat)
    (invocationId : Option String) (uuid : String) (h : Operations) :
    let t : Activity := .send method arguments onInvocation invocationId uuid
    RaisesOnly cfg t (fun s => Contract cfg t s h)
      (send cfg method arguments onInvocation invocationId uuid) := by
  cases arguments with
  | list items =>
      refine raises_sending (fun _ _ => .inl ⟨_, rfl⟩) (fun h => by cases h) ?_
      exact raises_mono (raises_sendList method items onInvocation invocationId uuid)
        fun _ _ => .inr
  | subject subject =>
      refine raises_sending (fun _ _ => .inl ⟨_, rfl⟩) (fun h => by cases h) ?_
      exact Throws.bind (raises_modify fun _ => rfl) fun _ =>
        raises_mono (Subject.raises_serve subject _ fun _ _ hobject => messageOf_start hobject ..)
          fun _ _ => .inr
  | other => exact raises_sending (fun _ _ => .inl ⟨_, rfl⟩) (fun _ _ => .inr rfl) (.pure _)

end Connection

end GeventSignalR
