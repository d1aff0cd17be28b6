import GeventSignalR.Hub.Restart

/-!
# Pending reconnects

A websocket that `handle_reconnect` has created is not connected for a while, and a write to
it fails like one to a websocket that is lost.  Pings take that for the next outage.

* `Patient` are the steps in which no ping does: no restart of a keep-alive loop or of a
  deferred reconnect goes on while a websocket is pending.
* `Undisturbed` is the invariant that neither of them has intervened meanwhile.
-/

namespace GeventSignalR

open Coop Coop.Prog

/-- Behind this result a restart goes on, or begins. -/
def goesOn : (op : Op) → Except Exc op.Result → Bool
  | .wsSend .., .error e => e.isConnectionLost
  | .callback .onReconnect, .ok _ => true
  | .wsClose _ .reconnect, .ok _ => true
  | .wsClose _ .reconnect, .error e => e = .connectionClosed
  | .kill _, .ok _ => true
  | .auth .start, .ok _ => true
  | .post .., .ok _ => true
  | _, _ => false

/-- A websocket of `handle_reconnect` has not delivered its open, error or close event. -/
def hasPending (s : State) : Bool :=
  s.apps.any (·.isPending)

/-- While a websocket is pending, no ping finds the connection lost, and no step of a restart
returns in a greenlet that pings. -/
def Patient : Cond State Exc Op Op.Result Activity where
  fork := fun _ _ _ => True
  start := fun _ _ _ => True
  resume := fun s _ t op r => isPinging t = true → goesOn op r = true → hasPending s = false

instance : System.Decides Patient where
  fork := fun _ _ _ => isTrue trivial
  start := fun _ _ _ => isTrue trivial
  resume := fun _ _ _ _ _ => inferInstanceAs (Decidable (_ → _))

/-- While a websocket was pending, no greenlet that pings has killed or created one. -/
def Undisturbed (s : State) : Prop :=
  ∀ i ∈ s.history.interventions, isPinging i.greenlet = true → i.pending = false

variable {cfg : Config} {t : Activity} {s s' : State} {P : Multiset (Label Op Activity)}

/-- What the proof assumes. -/
abbrev patient (cfg : Config) (t : Activity) : HubRely :=
  Hub.running cfg Patient (fun s _ => Undisturbed s) t

/-- The invariant of a thread that runs. -/
abbrev UndisturbedInv (t : Activity) : HubInv :=
  fun s _ => Undisturbed s ∧ s.history.current = t

/-- What is known where a restart goes on. -/
abbrev Free (t : Activity) : HubInv :=
  fun s P => UndisturbedInv t s P ∧ (isPinging t = true → hasPending s = false)

/-! ## Leaves -/

theorem undisturbed_congr (h : UndisturbedInv t s P)
    (hs : (s'.history.interventions, s'.history.current) =
      (s.history.interventions, s.history.current)) : UndisturbedInv t s' P := by
  rw [Prod.mk.injEq] at hs
  exact ⟨fun i hi => h.1 i (hs.1 ▸ hi), hs.2.trans h.2⟩

theorem undisturbed_modify {f : State → State}
    (hf : ∀ s, ((f s).history.interventions, (f s).history.current) =
      (s.history.interventions, s.history.current)) :
    Keeps (patient cfg t) (UndisturbedInv t) (modify f : Hub Unit) :=
  Keeps.modify fun s _ h => undisturbed_congr h (hf s)

theorem undisturbed_perform (op : Op) : Keeps (patient cfg t) (UndisturbedInv t) (perform op) :=
  Keeps.perform (fun _ _ h => h.1) fun _ _ _ h hres => ⟨h, hres.1⟩

theorem undisturbed_offSocket : OffSocket (patient cfg t) (UndisturbedInv t) where
  congr := fun h hs => undisturbed_congr h
    (congrArg (fun s => (s.history.interventions, s.history.current)) hs :)
  perform := fun _ => undisturbed_perform _
  fork := fun _ => Keeps.fork fun _ _ h => h

/-- A change that leaves the websockets pending or not. -/
theorem free_modify {f : State → State}
    (hf : ∀ s, ((f s).history.interventions, (f s).history.current) =
      (s.history.interventions, s.history.current))
    (happs : ∀ s, (f s).apps.map (·.isPending) = s.apps.map (·.isPending)) :
    Keeps (patient cfg t) (Free t) (modify f : Hub Unit) := by
  refine Keeps.modify fun s P h => ⟨undisturbed_congr h.1 (hf s), fun ht => ?_⟩
  have hpending : hasPending (f s) = hasPending s := by
    have hany := congrArg (List.any · id) (happs s)
    simpa [hasPending, List.any_map, Function.comp_def] using hany
  rw [hpending]
  exact h.2 ht

theorem free_setApp {app : Nat} {f : App → App} (hf : ∀ a, (f a).isPending = a.isPending) :
    Keeps (patient cfg t) (Free t) (setApp app f) :=
  free_modify (fun _ => rfl) fun _ => map_modify hf

/-- An operation behind which a restart goes on. -/
theorem free_of_goesOn {op : Op} {r : Except Exc op.Result} (h : Undisturbed s)
    (hres : (patient cfg t).resume s P op r) (hgoesOn : goesOn op r = true) : Free t s P :=
  ⟨⟨h, hres.1⟩, fun ht => hres.2.1 ht hgoesOn⟩

theorem free_setState {value : ConnectionState} :
    Keeps (patient cfg t) (Free t) (WebsocketTransport.setState value) :=
  Keeps.bind (free_modify (fun _ => rfl) fun _ => rfl) fun _ =>
    Keeps.when fun _ => free_modify (fun _ => rfl) fun _ => rfl

/-- An intervention while no websocket is pending. -/
theorem undisturbed_intervene (h : Free t s P) :
    ∀ i ∈ WebsocketTransport.intervene s, isPinging i.greenlet = true → i.pending = false := by
  intro i hi hpinging
  rcases List.mem_append.mp hi with hi | hi
  · exact h.1.1 i hi hpinging
  · rw [List.mem_singleton.mp hi] at hpinging ⊢
    rw [h.1.2] at hpinging
    exact h.2 hpinging

namespace WebsocketTransport

/-! ## Restarts -/

theorem free_killApp (app : Nat) : Keeps (patient cfg t) (Free t) (killApp app) := by
  intro s P h hfree
  unfold killApp record
  simp only [wp_bind, wp_get, wp_modify]
  have hkilled : Keeps (patient cfg t) (Free t) (setApp app fun a => { a with killed := true }) :=
    free_setApp fun _ => rfl
  refine hkilled _ P h ⟨⟨?_, hfree.1.2⟩, hfree.2⟩
  exact undisturbed_intervene hfree

theorem free_createApp : Leads (patient cfg t) (Free t) (UndisturbedInv t) createApp := by
  intro s P h hfree
  exact ⟨undisturbed_intervene hfree, hfree.1.2⟩

theorem free_stopLost {Q : Post State Exc Op Op.Result Activity Unit}
    {h : List (Logged State Exc Op Op.Result)}
    (hdone : ∀ s P h, Free t s P → Q (.ok ()) s P h)
    (hraise : ∀ e s P h, UndisturbedInv t s P → Q (.error e) s P h) (hfree : Free t s P) :
    stopLost.wp (patient cfg t) Q s P h := by
  refine wp_stopLost (free_modify (fun _ => rfl) fun _ => rfl) (fun _ => free_setApp fun _ => rfl)
    (fun s P app hfree => hfree.1.1) (fun s P h app r hinv hres => ?_)
    (fun _ => free_setApp fun _ => rfl) free_setState (free_modify (fun _ => rfl) fun _ => rfl)
    hdone hfree
  rcases r with e | _
  · dsimp only
    split_ifs with he
    · exact free_of_goesOn hinv hres (by simp [goesOn, he])
    · exact hraise e s P h ⟨hinv, hres.1⟩
  · exact free_of_goesOn hinv hres rfl

theorem free_start {h : List (Logged State Exc Op Op.Result)} (hfree : Free t s P) :
    (Connection.start cfg).wp (patient cfg t) (fun _ s P _ => UndisturbedInv t s P) s P h := by
  have rule : StartRule (patient cfg t) (Free t) (fun _ _ => True)
      (fun _ s P _ => UndisturbedInv t s P) cfg :=
    { headers := fun s P url headers oldHeaders hfree => ⟨hfree.1, hfree.2⟩
      ready := fun _ _ _ _ _ _ => trivial
      auth_block := fun s P hfree => hfree.1.1
      auth := by
        intro s P h r hinv hres
        rcases r with e | token
        · exact ⟨hinv, hres.1⟩
        · exact ⟨free_of_goesOn hinv hres rfl, fun _ => trivial⟩
      post_block := fun s P url headers hfree => hfree.1.1
      post := by
        intro s P h url headers r hinv hres
        rcases r with e | response
        · exact ⟨hinv, hres.1⟩
        · dsimp only
          split
          · exact ⟨free_of_goesOn hinv hres rfl, trivial⟩
          · exact ⟨hinv, hres.1⟩
      finish := by
        intro s P h hfree _
        have hcreate : Leads (patient cfg t) (Free t) (UndisturbedInv t) finishStart :=
          Leads.get_bind fun s P h hfree => Leads.when (fun _ _ hfree => hfree.1)
            (fun _ => Leads.bind (fun _ _ hfree => hfree.1) free_setState fun _ => free_createApp)
            s P h hfree
        exact hcreate s P h hfree }
  exact wp_start rule hfree fun _ _ => trivial

theorem free_reconnect :
    Leads (patient cfg t) (Free t) (UndisturbedInv t) (reconnect cfg) := by
  intro s P h hfree
  refine wp_reconnect (fun s P h hfree => free_stopLost (fun _ _ _ hfree => hfree)
    (fun _ _ _ _ h => h) hfree) (fun _ _ _ hfree _ => hfree.1) free_killApp
      (fun s P app hfree _ => hfree.1.1) (fun s P h app r hinv hres => ?_) hfree
  rcases r with e | _
  · exact ⟨hinv, hres.1⟩
  · have hfree : Free t s P := free_of_goesOn hinv hres rfl
    exact free_start ⟨hfree.1, hfree.2⟩

theorem free_handleReconnect :
    Leads (patient cfg t) (Free t) (UndisturbedInv t) (handleReconnect cfg) := by
  intro s P h hfree
  refine wp_announce (fun _ => hfree.1) fun handler _ => ?_
  have hset : Keeps (patient cfg t) (Free t) (setReconnecting true) :=
    keeps_setReconnecting fun _ => free_modify (fun _ => rfl) fun _ => rfl
  have hreconnect : Leads (patient cfg t) (Free t) (UndisturbedInv t)
      ((reconnect cfg).tryCatch deferReconnect) :=
    Leads.tryCatch free_reconnect undisturbed_offSocket.deferReconnect
  have hrest : Leads (patient cfg t) (Free t) (UndisturbedInv t)
      (setReconnecting true >>= fun _ => (reconnect cfg).tryCatch deferReconnect) :=
    Leads.bind (fun _ _ hfree => hfree.1) hset fun _ => hreconnect
  unfold announce reportReconnect record call
  rw [wp_bind, wp_when]
  split_ifs
  · rw [wp_bind, wp_modify, wp_perform]
    refine ⟨hfree.1.1, fun s P r hinv hres => ?_⟩
    rcases r with e | _
    · exact ⟨hinv, hres.1⟩
    · refine wp_mono ?_ ((wp_bind _ _).mp (hrest s P _ (free_of_goesOn hinv hres rfl)))
      rintro (e | _) s P h hpost <;> exact hpost
  · refine wp_mono ?_ ((wp_bind _ _).mp (hrest s P h hfree))
    rintro (e | _) s P h hpost <;> exact hpost

/-- A write that finds the connection lost begins a restart. -/
theorem undisturbed_send (message : Outgoing) :
    Keeps (patient cfg t) (UndisturbedInv t) (send cfg message) := by
  have hplain : ∀ app (e : Exc), Keeps (patient cfg t) (UndisturbedInv t)
      (setApp app fun a => { a with lost := a.lost || e.isConnectionLost }) :=
    fun app e => undisturbed_modify fun _ => rfl
  have rule : SendRule (patient cfg t) (UndisturbedInv t) (Free t) (fun _ _ _ => True) cfg message :=
    { unstored := fun _ _ _ _ => trivial
      encode := fun _ _ _ _ _ => trivial
      block := fun s P app h _ => h.1
      written := fun s P app hinv hres => ⟨hinv, hres.1⟩
      lost := fun s P app e hinv hres he => by
        have hset : Keeps (patient cfg t) (Free t)
            (setApp app fun a => { a with lost := a.lost || e.isConnectionLost }) :=
          free_setApp fun _ => rfl
        exact hset s P [] (free_of_goesOn hinv hres he)
      failed := fun s P app e hinv hres _ => ⟨hplain app e s P [] ⟨hinv, hres.1⟩, trivial⟩ }
  refine Throws.keeps (throws_send rule fun e s P h hfree => ?_)
  have hdown : Free t (down s) P := ⟨⟨hfree.1.1, hfree.1.2⟩, hfree.2⟩
  refine wp_connectionLost (fun _ => ?_) fun _ => ?_
  · exact wp_mono (fun _ _ _ _ h => ⟨h, fun _ _ => trivial⟩)
      (keeps_reportLost (undisturbed_perform _) _ P h hdown.1)
  · exact wp_mono (fun _ _ _ _ h => ⟨h, fun _ _ => trivial⟩) (free_handleReconnect _ P h hdown)

end WebsocketTransport

/-! ## Runs -/

theorem undisturbed_runForever (app : Nat) :
    Keeps (patient cfg t) (UndisturbedInv t) (WebSocketApp.runForever cfg app) := by
  have hoff : OffSocket (patient cfg t) (UndisturbedInv t) := undisturbed_offSocket
  have hset : ∀ f, Keeps (patient cfg t) (UndisturbedInv t) (setApp app f) :=
    fun f => undisturbed_modify fun _ => rfl
  have hdispatch : Connection.KeepsDispatch (patient cfg t) (UndisturbedInv t) :=
    { calls := ⟨fun _ => undisturbed_modify fun _ => rfl, fun _ _ => undisturbed_perform _⟩
      dispatched := fun _ => undisturbed_modify fun _ => rfl
      unregister := fun _ => undisturbed_modify fun _ => rfl
      event := fun _ _ => undisturbed_perform _
      error := fun _ => undisturbed_perform _ }
  have hreceive : ∀ raw, Keeps (patient cfg t) (UndisturbedInv t)
      (WebsocketTransport.receive cfg app raw) := by
    refine fun raw => hoff.receive (fun _ => undisturbed_modify fun _ => rfl) fun f hf => ?_
    refine undisturbed_modify fun s => ?_
    have hhistory := hf s.history
    exact Prod.ext (congrArg (·.interventions) hhistory :) (congrArg (·.current) hhistory :)
  refine hoff.runForever (hoff.round WebsocketTransport.undisturbed_send
    (fun _ _ _ h hres => ⟨h, hres.1⟩) (fun _ _ h => h.1) ?_ (hset _)) (hset _) (hset _)
  intro raw s P h hinv hres
  exact WebSocketApp.keeps_handleMessage (hoff.callback (WebsocketTransport.keeps_onMessage
    (hreceive raw) fun _ => Connection.keeps_onMessage
      (fun _ => Connection.keeps_dispatch hdispatch) (hoff.stop _))) s P h ⟨hinv, hres.1⟩

theorem undisturbed_activities : KeepsActivities (patient cfg t) (UndisturbedInv t) cfg where
  send := WebsocketTransport.undisturbed_send
  auth := undisturbed_perform _
  sleep := fun _ => undisturbed_perform _
  acquire := fun _ => undisturbed_perform _
  register := fun _ => Connection.keeps_register (undisturbed_modify fun _ => rfl)
    (undisturbed_modify fun _ => rfl)
  modify := fun hf => undisturbed_modify fun s =>
    (congrArg (fun s => (s.history.interventions, s.history.current)) (hf s) :)

/-- A `start()` of the user is none of a greenlet that pings. -/
theorem undisturbed_body (t : Activity) :
    Keeps (patient cfg t) (UndisturbedInv t) (Hub.body cfg t) := by
  by_cases hstart : t = .start
  · subst hstart
    have hstarted : Leads (patient cfg .start) (UndisturbedInv .start) (UndisturbedInv .start)
        (Connection.start cfg) :=
      fun s P h hI => WebsocketTransport.free_start ⟨hI, fun hpinging => by cases hpinging⟩
    exact keeps_once (Keeps.bind (undisturbed_modify fun _ => rfl) fun _ => hstarted)
  by_cases hstop : t = .stop
  · subst hstop
    have hstopped : Keeps (patient cfg .stop) (UndisturbedInv .stop)
        (record fun h => { h with stopped := true }) := undisturbed_modify fun _ => rfl
    exact keeps_once (Keeps.finally_ (undisturbed_offSocket.stop _) hstopped)
  · exact undisturbed_activities.body hstart hstop fun app _ => undisturbed_runForever app

theorem undisturbed_proof :
    Proof (hub cfg) Patient (fun s _ => Undisturbed s) fun _ _ _ _ => True := by
  refine Hub.proof_running ⟨fun _ _ _ h => h, fun _ _ _ _ h => h, fun _ _ _ _ _ _ h => h⟩
    (fun i hi => ?_) (fun _ _ _ h _ _ => h) fun s P t h _ hcurrent => ?_
  · cases hi
  · exact ends_of_ready (fun _ _ h => h)
      (wp_mono (fun _ _ _ _ h => h.1) (undisturbed_body t s P [] ⟨h, hcurrent⟩))

/-- Where no ping finds the connection lost while a websocket of `handle_reconnect` has not
delivered its first event, no keep-alive loop and no deferred reconnect kills a greenlet or
creates a websocket meanwhile. -/
theorem patient_undisturbed {w : World State Exc Op Op.Result Activity}
    (h : (hub cfg).Reach Patient w) (i : Intervention) (hi : i ∈ w.shared.history.interventions)
    (hpinging : isPinging i.greenlet = true) : i.pending = false :=
  (undisturbed_proof.sound h).holds i hi hpinging

/-- Otherwise: the keep-alive loop pings again before the new websocket is connected, kills
its greenlet and creates another one. -/
theorem disturbed_reconnect :
    ∃ w, (hub (.direct (some (.raw 5 none)))).Reach .any w ∧ w.shared.apps.length = 3 ∧
      (∃ a, w.shared.apps[1]? = some a ∧ a.isPending = true ∧ a.killed = true) ∧
      w.shared.history.interventions.map (fun i => (isPinging i.greenlet, i.pending)) =
        [(false, false), (true, false), (true, false), (true, true), (true, true)] := by
  have h := (hub (.direct (some (.raw 5 none)))).reach_after [.fork .start, .start 0, .start 1,
    .answer 1 (.happened .opened), .answer 1 .done, .start 1,
    .answer 1 (.happened (.message (.text "\x7b\x7d\x1e"))), .start 2,
    .fork (.clock 16), .start 3, .answer 2 .done, .answer 2 (.raised .connectionClosed),
    .answer 2 .done, .start 2, .answer 2 .done, .answer 2 (.raised .connectionClosed),
    .answer 2 .done] .start rfl
  exact ⟨_, h, rfl, ⟨_, rfl, rfl, rfl⟩, rfl⟩

/-- A keep-alive loop that reconnects and lets the new websocket connect. -/
theorem patient_reconnect :
    ∃ w, (hub (.direct (some (.raw 5 none)))).Reach Patient w ∧
      ∃ i ∈ w.shared.history.interventions, isPinging i.greenlet = true ∧ i.pending = false := by
  have h := (hub (.direct (some (.raw 5 none)))).reach_within Patient [.fork .start, .start 0,
    .start 1, .answer 1 (.happened .opened), .answer 1 .done, .start 1,
    .answer 1 (.happened (.message (.text "\x7b\x7d\x1e"))), .start 2,
    .fork (.clock 16), .start 3, .answer 2 .done, .answer 2 (.raised .connectionClosed),
    .answer 2 .done, .start 4, .answer 4 (.happened .opened), .answer 4 .done] .start rfl
  refine ⟨_, h, ⟨.checkerRun, false⟩, ?_, rfl, ?_⟩
  · exact List.mem_of_getElem? (i := 1) rfl
  · exact patient_undisturbed h _ (List.mem_of_getElem? (i := 1) rfl) rfl

end GeventSignalR
