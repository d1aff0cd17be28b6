import GeventSignalR.Hub.Keeps

/-!
# What can be called

The check of `StreamHandler.subscribe`, and the calls inside `on_message` that rely on it.

* `isSound` says of the argument of `subscribe` that the values behind a function for `next` are
  functions, too; the check itself looks at `next` three times.
* `HasFunctions` is the invariant of the runs whose calls of `subscribe` are sound: the objects hold
  functions, and nothing else was ever called.
-/

namespace GeventSignalR

open Coop Coop.Prog

/-! ## One call of `subscribe` -/

/-- It can be called. -/
def Function.isCallable (f : Function) : Bool :=
  f ≠ .notCallable

namespace SubscribeCallback

/-- Where `next` is a function, the other two are. -/
def isSound : SubscribeCallback → Bool
  | .dict (some next) (some complete) (some error) =>
      !next.isCallable || (complete.isCallable && error.isCallable)
  | _ => true

end SubscribeCallback

namespace StreamHandler

/-- The three functions of the object can be called. -/
def isCallable (handler : StreamHandler) : Bool :=
  handler.nextCallback.isCallable && handler.completeCallback.isCallable &&
    handler.errorCallback.isCallable

/-- The object behind a call of `subscribe`. -/
def subscribed (handler : StreamHandler) (callbacks : SubscribeCallback) : StreamHandler :=
  (handler.subscribe callbacks).toOption.getD handler

/-- The call raises and leaves the object as it was, or its three functions can be called. -/
def Guards (handler : StreamHandler) (callbacks : SubscribeCallback) : Prop :=
  (∃ e, handler.subscribe callbacks = .error e ∧ handler.subscribed callbacks = handler) ∨
    (handler.subscribed callbacks).isCallable = true

variable {handler handler' : StreamHandler} {callbacks : SubscribeCallback}

/-- What the check lets pass. -/
theorem subscribe_eq_ok_iff :
    handler.subscribe callbacks = .ok handler' ↔
      ∃ next complete error, callbacks = .dict (some next) (some complete) (some error) ∧
        next.isCallable = true ∧ handler' = { handler with
          nextCallback := next, completeCallback := complete, errorCallback := error } := by
  rcases callbacks with _ | ⟨_ | next, _ | complete, _ | error⟩ <;> try simp [subscribe]
  by_cases hnext : next = .notCallable
  · simp [hnext, Function.isCallable]
  · simp [hnext, Function.isCallable, eq_comm]

theorem isCallable_of_subscribe (hsound : callbacks.isSound = true)
    (h : handler.subscribe callbacks = .ok handler') : handler'.isCallable = true := by
  obtain ⟨next, complete, error, rfl, hnext, rfl⟩ := subscribe_eq_ok_iff.mp h
  simp only [SubscribeCallback.isSound, hnext, Bool.not_true, Bool.false_or,
    Bool.and_eq_true] at hsound
  simp [isCallable, hnext, hsound]

/-- A call does what is asked exactly when its argument is sound. -/
theorem guards_iff : handler.Guards callbacks ↔ callbacks.isSound = true := by
  rcases callbacks with _ | ⟨_ | next, _ | complete, _ | error⟩ <;>
    try simp [Guards, subscribed, subscribe, SubscribeCallback.isSound, Except.toOption]
  by_cases hnext : next = .notCallable
  · simp [hnext, Function.isCallable]
  · simp [hnext, Function.isCallable, isCallable]

/-- The same for every call of a sequence. -/
theorem guards_all_iff (handler : StreamHandler) (calls : List SubscribeCallback) :
    (∀ before callbacks behind, calls = before ++ callbacks :: behind →
        (before.foldl subscribed handler).Guards callbacks) ↔
      ∀ callbacks ∈ calls, callbacks.isSound = true := by
  constructor
  · intro hguards callbacks hmem
    obtain ⟨before, behind, hsplit⟩ := List.append_of_mem hmem
    exact guards_iff.mp (hguards before callbacks behind hsplit)
  · intro hsound before callbacks behind hsplit
    have hmem : callbacks ∈ calls := by simp [hsplit]
    exact guards_iff.mpr (hsound callbacks hmem)

end StreamHandler

/-! ## Runs -/

/-- If it is a call of `subscribe`, it is sound. -/
def Activity.isSound : Activity → Bool
  | .subscribe _ callbacks => callbacks.isSound
  | _ => true

/-- Every call of `subscribe` is sound. -/
def Sound : Cond State Exc Op Op.Result Activity where
  fork := fun _ _ _ => True
  start := fun _ _ t => t.isSound = true
  resume := fun _ _ _ _ _ => True

instance : System.Decides Sound where
  fork := fun _ _ _ => isTrue trivial
  start := fun _ _ t => inferInstanceAs (Decidable (t.isSound = true))
  resume := fun _ _ _ _ _ => isTrue trivial

/-- The objects hold functions, and nothing but functions was called. -/
structure HasFunctions (s : State) : Prop where
  objects : ∀ handler ∈ s.streams, handler.isCallable = true
  calls : ∀ c ∈ s.history.calls, c.1.isCallable = true

/-- The invariant. -/
abbrev CallableInv : HubInv :=
  fun s _ => HasFunctions s

/-- What the proof assumes. -/
abbrev sound (cfg : Config) (t : Activity) : HubRely :=
  (hub cfg).rely Sound CallableInv t

variable {cfg : Config} {t : Activity} {s s' : State} {P : Multiset (Label Op Activity)}

theorem HasFunctions.congr (h : HasFunctions s) (hstreams : s'.streams = s.streams)
    (hcalls : s'.history.calls = s.history.calls) : HasFunctions s' := by
  constructor
  · rw [hstreams]
    exact h.objects
  · rw [hcalls]
    exact h.calls

theorem callable_modify {f : State → State}
    (hf : ∀ s, ((f s).streams, (f s).history.calls) = (s.streams, s.history.calls)) :
    Keeps (sound cfg t) CallableInv (modify f : Hub Unit) :=
  Keeps.modify fun s _ h =>
    h.congr (congrArg Prod.fst (hf s)) (congrArg Prod.snd (hf s))

theorem callable_perform (op : Op) : Keeps (sound cfg t) CallableInv (perform op) :=
  Keeps.perform (fun _ _ h => h) fun _ _ _ h _ => h

theorem callable_off : OffTransport (sound cfg t) CallableInv where
  congr := fun h hs => h.congr (congrArg (·.streams) hs) (congrArg (·.history.calls) hs)
  perform := fun _ => callable_perform _
  fork := fun _ => Keeps.fork fun _ _ h => h

theorem callable_send (message : Outgoing) :
    Keeps (sound cfg t) CallableInv (WebsocketTransport.send cfg message) :=
  callable_off.send fun _ => callable_perform _

/-- A function is called. -/
theorem callable_apply {f : Function} (hf : f.isCallable = true) (handlerCall : HandlerCall) :
    Keeps (sound cfg t) CallableInv (f.apply handlerCall) := by
  have hrecord : Keeps (sound cfg t) CallableInv
      (record fun h => { h with calls := h.calls ++ [(f, handlerCall)] }) := by
    apply Keeps.modify
    intro s P hI
    refine ⟨hI.objects, ?_⟩
    intro c hc
    rcases List.mem_append.mp hc with hc | hc
    · exact hI.calls c hc
    · rw [List.mem_singleton.mp hc]
      exact hf
  refine Keeps.bind hrecord fun _ => ?_
  cases f with
  | default => exact .pure _
  | user callback => exact callable_perform _
  | notCallable => cases hf

/-- What an object holds is called. -/
theorem callable_callback {object : Nat} {member : StreamHandler → Function}
    (hmember : ∀ handler, handler.isCallable = true → (member handler).isCallable = true)
    (handlerCall : HandlerCall) :
    Keeps (sound cfg t) CallableInv
      (Connection.streamCallback object member >>= fun f => f.apply handlerCall) := by
  intro s P h hI
  unfold Connection.streamCallback
  simp only [wp_bind, wp_get]
  cases hget : s.streams[object]? with
  | none => exact hI
  | some handler =>
      have hcallable := hI.objects handler (List.mem_of_getElem? hget)
      exact callable_apply (hmember handler hcallable) handlerCall s P h hI

theorem callable_dispatch (message : Message) :
    Keeps (sound cfg t) CallableInv (Connection.dispatch message) := by
  have hselect : ∀ select, Keeps (sound cfg t) CallableInv
      (Connection.selectHandlers message select) := fun select =>
    Keeps.bind (callable_modify fun _ => rfl) fun _ => Keeps.bind .get fun _ => .pure _
  have hunregister : ∀ invocationId, Keeps (sound cfg t) CallableInv
      (Connection.unregister invocationId) := fun _ => callable_modify fun _ => rfl
  cases message with
  | invocation headers invocationId target arguments =>
      exact Keeps.bind .get fun _ => Keeps.each fun _ _ => callable_perform _
  | completion headers invocationId result error =>
      have herror : Keeps (sound cfg t) CallableInv
          (Connection.reportError (.completion headers invocationId result error) error) :=
        Keeps.when fun _ => Keeps.bind (.ofExcept _) fun _ => Keeps.bind .get fun _ =>
          Keeps.when fun _ => callable_perform _
      refine Keeps.bind herror fun _ => Keeps.bind (hselect _) fun fired =>
        Keeps.bind (Keeps.each fun handler _ => ?_) fun _ => hunregister _
      cases handler with
      | stream object _ =>
          -- a subscribed handler has the callback that is called here
          apply callable_callback
          intro handler h
          simp only [StreamHandler.isCallable, Bool.and_eq_true] at h
          exact h.1.2
      | invocation _ callback => exact callable_apply rfl _
  | streamItem headers invocationId item =>
      refine Keeps.bind (hselect _) fun fired => Keeps.each fun handler _ => ?_
      cases handler with
      | stream object _ =>
          apply callable_callback
          intro handler h
          simp only [StreamHandler.isCallable, Bool.and_eq_true] at h
          exact h.1.1
      | invocation _ callback => exact .raise _
  | cancelInvocation headers invocationId =>
      refine Keeps.bind (hselect _) fun fired =>
        Keeps.bind (Keeps.each fun handler _ => ?_) fun _ => hunregister _
      cases handler with
      | stream object _ =>
          apply callable_callback
          intro handler h
          simp only [StreamHandler.isCallable, Bool.and_eq_true] at h
          exact h.2
      | invocation _ callback => exact .raise _
  | _ => exact .pure _

theorem callable_runForever (app : Nat) :
    Keeps (sound cfg t) CallableInv (WebSocketApp.runForever cfg app) := by
  have hmessage : ∀ raw, Keeps (sound cfg t) CallableInv
      (WebSocketApp.handle cfg app (.message raw)) := fun raw =>
    Keeps.bind (callable_off.toOffSocket.callback (WebsocketTransport.keeps_onMessage
      (callable_off.toOffSocket.receive (fun _ => callable_modify fun _ => rfl)
        fun f hf => callable_modify fun s => by rw [show (f s.history).calls = s.history.calls from
          congrArg (·.calls) (hf s.history)])
      fun _ => Connection.keeps_onMessage callable_dispatch (callable_off.toOffSocket.stop _)))
      fun _ => .pure _
  exact callable_off.runForever (callable_off.toOffSocket.round callable_send
    (fun _ _ _ h _ => h) (fun _ _ h => h) (fun raw s P h hI _ => hmessage raw s P h hI)
    (callable_modify fun _ => rfl))

/-- The object of a stream begins with the functions of its constructor. -/
theorem callable_stream {event uuid : String} {eventParams : Value} :
    Keeps (sound cfg t) CallableInv (Connection.stream cfg event eventParams uuid) := by
  apply Connection.keeps_stream
  · exact callable_modify fun _ => rfl
  · apply Keeps.modify
    intro s P hI
    refine ⟨?_, hI.calls⟩
    intro handler hmem
    rcases List.mem_append.mp hmem with hmem | hmem
    · exact hI.objects handler hmem
    · rw [List.mem_singleton.mp hmem]
      rfl
  · exact fun _ => Connection.keeps_register (callable_modify fun _ => rfl)
      (callable_modify fun _ => rfl)
  · exact fun _ _ => callable_send _

/-- A sound call of `subscribe`. -/
theorem callable_subscribe {object : Nat} {callbacks : SubscribeCallback}
    (hsound : callbacks.isSound = true) :
    Keeps (sound cfg t) CallableInv (StreamHandler.subscribeObject object callbacks) := by
  apply Keeps.get_bind
  intro s P h hI
  cases hget : s.streams[object]? with
  | none => exact hI
  | some handler =>
      rw [Option.elim_some, wp_bind, wp_ofExcept]
      cases hresult : handler.subscribe callbacks with
      | error e => exact hI
      | ok handler' =>
          refine ⟨?_, hI.calls⟩
          intro other hmem
          rcases List.mem_or_eq_of_mem_set hmem with hmem | rfl
          · exact hI.objects other hmem
          · exact StreamHandler.isCallable_of_subscribe hsound hresult

theorem callable_body (t : Activity) (hsound : t.isSound = true) :
    Keeps (sound cfg t) CallableInv (Hub.body cfg t) := by
  have hothers : KeepsOthers (sound cfg t) CallableInv cfg :=
    { send := callable_send
      sleep := fun _ => callable_perform _
      acquire := fun _ => callable_perform _
      modify := fun hf => callable_modify fun s =>
        Prod.ext (congrArg (·.streams) (hf s)) (congrArg (·.history.calls) (hf s)) }
  cases t with
  | start => exact keeps_once (Keeps.bind (callable_modify fun _ => rfl) fun _ => callable_off.start)
  | stop =>
      exact keeps_once (Keeps.finally_ (callable_off.toOffSocket.stop _)
        (callable_modify fun _ => rfl))
  | send method arguments onInvocation invocationId uuid =>
      exact keeps_once (Connection.keeps_send (callable_modify fun _ => rfl)
        (Connection.keeps_refreshTokenMaybe (callable_perform _)
          fun _ => callable_modify fun _ => rfl)
        (fun _ _ => Connection.keeps_sendList (fun _ => Connection.keeps_register
          (callable_modify fun _ => rfl) (callable_modify fun _ => rfl)) fun _ _ => callable_send _)
        fun _ _ => Keeps.bind (callable_modify fun _ => rfl) fun _ => hothers.subject.start)
  | stream event eventParams uuid => exact keeps_once callable_stream
  | subscribe object callbacks => exact keeps_once (callable_subscribe hsound)
  | runForever app => exact callable_runForever app
  | _ => exact hothers.body rfl

theorem callable_proof : Proof (hub cfg) Sound CallableInv fun _ _ _ _ => True := by
  have henter : KeepsEntering Sound CallableInv :=
    { inv := fun _ _ _ h => h.congr rfl rfl
      start := fun _ _ _ _ h => h
      resume := fun _ _ _ _ _ _ h => h }
  apply Hub.proof henter
  · constructor <;> simp [State.new, History.new]
  · exact fun _ _ _ h _ _ => h
  · exact fun s P t h hstart => ends_of_wp (fun _ _ h => h) (callable_body t hstart s P [] h)

/-- In every run whose calls of `subscribe` are sound, the objects hold functions, and
`on_message` has called nothing but functions; and a call of `subscribe` is sound exactly when it
raises and changes nothing, or leaves three functions. -/
theorem subscribed_callable {w : World State Exc Op Op.Result Activity}
    (h : (hub cfg).Reach Sound w) :
    (∀ handler ∈ w.shared.streams, handler.isCallable = true) ∧
      (∀ c ∈ w.shared.history.calls, c.1 ≠ .notCallable) ∧
      ∀ (handler : StreamHandler) (calls : List SubscribeCallback),
        (∀ before callbacks behind, calls = before ++ callbacks :: behind →
          (before.foldl StreamHandler.subscribed handler).Guards callbacks) ↔
        ∀ callbacks ∈ calls, callbacks.isSound = true := by
  have hcallable : HasFunctions w.shared := (callable_proof.sound h).holds
  refine ⟨hcallable.objects, ?_, StreamHandler.guards_all_iff⟩
  intro c hc
  simpa [Function.isCallable] using hcallable.calls c hc

/-- A number is taken for `complete`, and `on_message` calls it when the stream completes. -/
theorem called_number :
    ∃ w, (hub (.direct none)).Reach .any w ∧
      w.shared.history.calls.map (·.1) = [.notCallable] ∧
      ¬ (StreamHandler.new "Counter" "1").Guards
        (.dict (some (.user 0)) (some .notCallable) (some (.user 1))) := by
  have h := (hub (.direct none)).reach_after [.fork .start, .start 0, .start 1,
    .answer 1 (.happened .opened), .answer 1 .done, .start 1,
    .answer 1 (.happened (.message (.text "\x7b\x7d\x1e"))), .start 1,
    .fork (.stream "Counter" .none "1"), .start 2, .answer 2 .done,
    .fork (.subscribe 0 (.dict (some (.user 0)) (some .notCallable) (some (.user 1)))), .start 3,
    .answer 1 (.happened (.message
      (.text "\x7b\"type\": 3, \"invocationId\": \"1\"\x7d\x1e")))] .start rfl
  refine ⟨_, h, rfl, ?_⟩
  rw [StreamHandler.guards_iff]
  decide

/-- The same run with three functions. -/
theorem subscribed_callable_stream :
    ∃ w, (hub (.direct none)).Reach Sound w ∧ w.shared.history.calls.length = 1 ∧
      ∀ c ∈ w.shared.history.calls, c.1 ≠ .notCallable := by
  have h := (hub (.direct none)).reach_within Sound [.fork .start, .start 0, .start 1,
    .answer 1 (.happened .opened), .answer 1 .done, .start 1,
    .answer 1 (.happened (.message (.text "\x7b\x7d\x1e"))), .start 1,
    .fork (.stream "Counter" .none "1"), .start 2, .answer 2 .done,
    .fork (.subscribe 0 (.dict (some (.user 0)) (some (.user 1)) (some (.user 2)))), .start 3,
    .answer 1 (.happened (.message
      (.text "\x7b\"type\": 3, \"invocationId\": \"1\"\x7d\x1e")))] .start rfl
  exact ⟨_, h, rfl, (subscribed_callable h).2.1⟩

end GeventSignalR
