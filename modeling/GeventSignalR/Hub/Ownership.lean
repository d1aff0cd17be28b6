import GeventSignalR.Hub.SingleWebsocket

/-!
# The greenlet of a websocket

Every `WebSocketApp` has one greenlet, and it is unfinished as long as there is a
thread that runs its `run_forever`.

* `isOf` are the positions of such a thread.
* `Owned` is the invariant, `Alive` what it says to the thread itself.

These facts hold along every run.
-/

namespace GeventSignalR

open Coop Coop.Prog

/-- The position is one of the greenlet of a websocket. -/
def isOf (app : Nat) (l : Label Op Activity) : Bool :=
  match l.thread with
  | .runForever other => other == app
  | _ => false

/-- A websocket has at most one greenlet, and as long as it is there, it has not ended. -/
structure Owned (s : State) (P : Multiset (Label Op Activity)) : Prop where
  live : ∀ app, ∀ l ∈ P, isOf app l = true → ∃ a, s.apps[app]? = some a ∧ a.ended = false
  once : ∀ app, P.countP (isOf app ·) ≤ 1

/-- The invariant while a thread runs. -/
def Alive (t : Activity) : HubInv :=
  fun s P => Owned s (.ready t ::ₘ P)

variable {cfg : Config} {t : Activity}

/-- What the proof assumes. -/
abbrev owned (cfg : Config) (t : Activity) : HubRely :=
  (hub cfg).rely .any Owned t

/-! ## Positions -/

theorem isOf_congr {l l' : Label Op Activity} (h : l.thread = l'.thread) (app : Nat) :
    isOf app l = isOf app l' := by
  unfold isOf
  rw [h]

theorem isOf_runForever (app : Nat) (l : Label Op Activity)
    (h : l.thread = .runForever app) : isOf app l = true := by
  unfold isOf
  rw [h]
  exact beq_self_eq_true app

/-- A thread that is not the greenlet of a websocket. -/
theorem isOf_eq_false {l : Label Op Activity} (h : ∀ app, l.thread ≠ .runForever app)
    (app : Nat) : isOf app l = false := by
  unfold isOf
  split
  · exact absurd ‹_› (h _)
  · rfl

/-- The invariant speaks about threads, not about what they wait for. -/
theorem owned_congr_head {s : State} {P : Multiset (Label Op Activity)} {l l' : Label Op Activity}
    (h : Owned s (l ::ₘ P)) (hthread : l.thread = l'.thread) : Owned s (l' ::ₘ P) := by
  constructor
  · intro app other hother hof
    rcases Multiset.mem_cons.mp hother with rfl | hother
    · rw [← isOf_congr hthread] at hof
      exact h.live app l (Multiset.mem_cons_self l P) hof
    · exact h.live app other (Multiset.mem_cons_of_mem hother) hof
  · intro app
    have honce := h.once app
    rw [Multiset.countP_cons] at honce ⊢
    rwa [← isOf_congr hthread]

theorem Owned.tail {s : State} {P : Multiset (Label Op Activity)} {l : Label Op Activity}
    (h : Owned s (l ::ₘ P)) : Owned s P := by
  constructor
  · exact fun app other hother => h.live app other (Multiset.mem_cons_of_mem hother)
  · intro app
    exact (Multiset.countP_le_of_le _ (Multiset.le_cons_self P l)).trans (h.once app)

/-- A new thread that is not the greenlet of a websocket. -/
theorem Owned.cons {s : State} {P : Multiset (Label Op Activity)} (h : Owned s P)
    {l : Label Op Activity} (hl : ∀ app, l.thread ≠ .runForever app) : Owned s (l ::ₘ P) := by
  constructor
  · intro app other hother hof
    rcases Multiset.mem_cons.mp hother with rfl | hother
    · rw [isOf_eq_false hl app] at hof
      cases hof
    · exact h.live app other hother hof
  · intro app
    rw [Multiset.countP_cons_of_neg _ (by simp [isOf_eq_false hl app])]
    exact h.once app

/-- No other thread runs the websocket of the running greenlet. -/
theorem Alive.unique {app : Nat} {s : State} {P : Multiset (Label Op Activity)}
    (h : Alive (.runForever app) s P) {l : Label Op Activity} (hl : l ∈ P) :
    isOf app l = false := by
  have honce := h.once app
  rw [Multiset.countP_cons, if_pos (isOf_runForever app _ rfl)] at honce
  have hnone : P.countP (isOf app ·) = 0 := by omega
  simpa using Multiset.countP_eq_zero.mp hnone l hl

/-- The greenlet of a thread that runs has not ended. -/
theorem Alive.alive {app : Nat} {s : State} {P : Multiset (Label Op Activity)}
    (h : Alive (.runForever app) s P) : ∃ a, s.apps[app]? = some a ∧ a.ended = false :=
  h.live app (.ready (.runForever app)) (Multiset.mem_cons_self _ P) (isOf_runForever app _ rfl)

/-! ## Leaves -/

/-- The invariant in a state whose greenlets have ended or not as before. -/
theorem owned_congr {s s' : State} {P : Multiset (Label Op Activity)} (h : Owned s P)
    (hs : s'.apps.map (·.ended) = s.apps.map (·.ended)) : Owned s' P := by
  refine ⟨fun app l hl hof => ?_, h.once⟩
  obtain ⟨a, ha, halive⟩ := h.live app l hl hof
  obtain ⟨a', ha', hended⟩ := ended_of_map hs.symm ha
  exact ⟨a', ha', hended.trans halive⟩

theorem alive_perform {op : Op} : Keeps (owned cfg t) (Alive t) (perform op) :=
  Keeps.perform (fun _ _ h => owned_congr_head h rfl) fun _ _ _ h _ => owned_congr_head h rfl

theorem alive_modify {f : State → State} (hf : ∀ s, (f s).apps.map (·.ended) = s.apps.map (·.ended)) :
    Keeps (owned cfg t) (Alive t) (modify f : Hub Unit) :=
  Keeps.modify fun s _ h => owned_congr h (hf s)

theorem alive_setSilent {app : Nat} :
    Keeps (owned cfg t) (Alive t) (setApp app fun a => { a with silent := true }) :=
  alive_modify fun s => by simp [map_modify]

theorem alive_offSocket : OffSocket (owned cfg t) (Alive t) where
  congr := fun {s s' P} h hs => by
    have hfactor : ∀ s, s.apps.map (·.ended) = (offSocket s).apps.map (·.ended) := fun s => by
      simp [offSocket, offApp, Function.comp_def]
    refine owned_congr h ?_
    rw [hfactor s', hs, ← hfactor]
  perform := fun _ => alive_perform
  fork := fun {t'} ht' => Keeps.fork fun s P h => by
    have hcons : Owned s (.ready t' ::ₘ .ready t ::ₘ P) := Owned.cons h ht'
    rwa [Multiset.cons_swap] at hcons

/-! ## Creations and ends -/

/-- The greenlet of a new websocket is its only one. -/
theorem alive_createApp : Keeps (owned cfg t) (Alive t) WebsocketTransport.createApp := by
  intro s P h halive
  unfold WebsocketTransport.createApp record
  simp only [wp_bind, wp_get, wp_modify, wp_fork]
  -- the number of the new websocket has no thread yet
  have hnew : ∀ l ∈ Label.ready t ::ₘ P, isOf s.apps.length l = false := by
    intro l hl
    by_contra hof
    obtain ⟨a, ha, -⟩ := halive.live s.apps.length l hl (by simpa using hof)
    rw [List.getElem?_eq_none (le_refl _)] at ha
    cases ha
  have hcreated : Owned { s with
        apps := s.apps ++ [WebsocketTransport.newApp s.url s.oldHeaders.length (!s.history.current.isStart)] }
      (.ready (.runForever s.apps.length) ::ₘ .ready t ::ₘ P) := by
    constructor
    · intro app l hl hof
      show ∃ a, (s.apps ++ [_])[app]? = some a ∧ a.ended = false
      rcases Multiset.mem_cons.mp hl with rfl | hl
      · have happ : s.apps.length = app := by simpa [isOf, Label.thread] using hof
        rw [← happ]
        exact ⟨_, List.getElem?_concat_length, rfl⟩
      · obtain ⟨a, ha, halive⟩ := halive.live app l hl hof
        have hlt : app < s.apps.length := (List.getElem?_eq_some_iff.mp ha).1
        exact ⟨a, by rwa [List.getElem?_append_left hlt], halive⟩
    · intro app
      by_cases happ : s.apps.length = app
      · have hnone : (Label.ready t ::ₘ P).countP (isOf app ·) = 0 :=
          Multiset.countP_eq_zero.mpr fun l hl => by simp [← happ, hnew l hl]
        rw [Multiset.countP_cons, hnone]
        split <;> omega
      · rw [Multiset.countP_cons_of_neg]
        · exact halive.once app
        · simpa [isOf, Label.thread] using happ
  rw [Multiset.cons_swap] at hcreated
  exact owned_congr hcreated rfl

theorem alive_start : Keeps (owned cfg t) (Alive t) (Connection.start cfg) :=
  Connection.keeps_start
    (Connection.keeps_refreshTokenMaybe alive_perform fun _ => alive_modify fun _ => rfl)
    (WebsocketTransport.keeps_start
      (WebsocketTransport.keeps_negotiate (fun _ _ => alive_perform)
        fun _ _ => alive_modify fun _ => rfl)
      (alive_offSocket.setState _) alive_createApp)

theorem alive_send (message : Outgoing) :
    Keeps (owned cfg t) (Alive t) (WebsocketTransport.send cfg message) :=
  alive_offSocket.send
    (WebsocketTransport.keeps_reconnect alive_offSocket.stopLost
      (WebsocketTransport.keeps_killGreenlet (fun _ => WebsocketTransport.keeps_killApp
        (fun _ => alive_modify fun _ => rfl) (alive_offSocket.setApp fun _ => rfl))
        fun _ => alive_perform)
      (alive_modify fun _ => rfl) (alive_modify fun _ => rfl) alive_start)
    fun _ => alive_perform

/-- The greenlet that ends was the only one of its websocket. -/
theorem owned_ended {app : Nat} {s : State} {P : Multiset (Label Op Activity)}
    (h : Alive (.runForever app) s P) :
    Owned { s with apps := s.apps.modify app fun a => { a with ended := true } } P := by
  constructor
  · intro other l hl hof
    have hne : app ≠ other := by
      rintro rfl
      rw [h.unique hl] at hof
      cases hof
    obtain ⟨a, ha, halive⟩ := h.live other l (Multiset.mem_cons_of_mem hl) hof
    exact ⟨a, by simp [hne, ha], halive⟩
  · exact h.tail.once

/-! ## Activities -/

theorem alive_dispatch : Connection.KeepsDispatch (owned cfg t) (Alive t) where
  calls := ⟨fun _ => alive_modify fun _ => rfl, fun _ _ => alive_perform⟩
  dispatched := fun _ => alive_modify fun _ => rfl
  unregister := fun _ => alive_modify fun _ => rfl
  event := fun _ _ => alive_perform
  error := fun _ => alive_perform

theorem alive_round (app : Nat) : Keeps (owned cfg t) (Alive t) (WebSocketApp.round cfg app) := by
  have hoff : OffSocket (owned cfg t) (Alive t) := alive_offSocket
  refine hoff.round alive_send (fun _ _ _ h _ => owned_congr_head h rfl)
    (fun _ _ h => owned_congr_head h rfl) ?_ alive_setSilent
  intro raw s P h hinv _
  have halive : Alive t s P := owned_congr_head hinv rfl
  exact WebSocketApp.keeps_handleMessage (hoff.callback
    (WebsocketTransport.keeps_onMessage
      (hoff.receive (fun _ => alive_modify fun _ => rfl) fun _ _ => alive_modify fun _ => rfl) fun _ =>
        Connection.keeps_onMessage (fun _ => Connection.keeps_dispatch alive_dispatch)
          (hoff.stop _))) s P h halive

/-- What holds when a body ends. -/
abbrev OwnedEnd (t : Activity) : Post State Exc Op Op.Result Activity Bool :=
  Ends Owned (fun _ _ _ _ => True) t

/-- The end of a round goes on with the thread, or ends the greenlet with it. -/
theorem owned_endRound {app : Nat} {r : Except Exc Bool} {s : State}
    {P : Multiset (Label Op Activity)} {h : List (Logged State Exc Op Op.Result)}
    (halive : Alive (.runForever app) s P) :
    (WebSocketApp.endRound app r).wp (owned cfg (.runForever app)) (OwnedEnd (.runForever app))
      s P h := by
  have hoff : OffSocket (owned cfg (.runForever app)) (Alive (.runForever app)) := alive_offSocket
  have hteardown : (WebSocketApp.teardown app).wp (owned cfg (.runForever app))
      (fun _ s P _ => Owned s P) s P h := by
    unfold WebSocketApp.teardown
    rw [wp_bind]
    refine wp_mono ?_ (alive_setSilent s P h halive)
    rintro (e | _) s P h halive
    · exact halive.tail
    simp only [wp_finally, setApp, wp_modify]
    exact wp_mono (fun _ s P _ halive => owned_ended halive)
      (hoff.callback (hoff.onClosed app) s P h halive)
  exact WebSocketApp.ends_endRound hteardown halive

theorem owned_runForever {app : Nat} {s : State} {P : Multiset (Label Op Activity)}
    {h : List (Logged State Exc Op Op.Result)} (halive : Alive (.runForever app) s P) :
    (WebSocketApp.runForever cfg app).wp (owned cfg (.runForever app)) (OwnedEnd (.runForever app))
      s P h := by
  unfold WebSocketApp.runForever
  simp only [wp_bind, wp_get]
  split_ifs
  · exact ⟨trivial, owned_ended halive⟩
  · have hstarted : Keeps (owned cfg (.runForever app)) (Alive (.runForever app))
        (setApp app fun a => { a with started := true }) := alive_offSocket.setApp fun _ => rfl
    rw [wp_bind]
    refine wp_mono ?_ (hstarted s P h halive)
    rintro (e | _) s P h halive
    · exact ⟨trivial, halive.tail⟩
    rw [wp_bind, wp_attempt]
    refine wp_mono ?_ (alive_round app s P h halive)
    intro r s P h halive
    exact owned_endRound halive

theorem alive_activities : KeepsActivities (owned cfg t) (Alive t) cfg where
  send := alive_send
  auth := alive_perform
  sleep := fun _ => alive_perform
  acquire := fun _ => alive_perform
  register := fun _ =>
    Connection.keeps_register (alive_modify fun _ => rfl) (alive_modify fun _ => rfl)
  modify := fun hf => alive_modify fun s => congrArg (·.apps.map (·.ended)) (hf s)

/-- Every other thread is not the greenlet of a websocket, from its arrival to its end. -/
theorem alive_body (hrun : ∀ app, t ≠ .runForever app) :
    Keeps (owned cfg t) (Alive t) (Hub.body cfg t) := by
  by_cases hstart : t = .start
  · subst hstart
    exact keeps_once (Keeps.bind (alive_modify fun _ => rfl) fun _ => alive_start)
  · by_cases hstop : t = .stop
    · subst hstop
      exact keeps_once (Keeps.finally_ (alive_offSocket.stop _) (alive_modify fun _ => rfl))
    · exact alive_activities.body hstart hstop fun app h => absurd h (hrun app)

/-- The invariant holds along every run. -/
theorem owned_proof : Proof (hub cfg) .any Owned fun _ _ _ _ => True := by
  refine Hub.proof ⟨fun _ _ _ h => owned_congr h rfl, fun _ _ _ _ h => h,
    fun _ _ _ _ _ _ h => h⟩ ⟨by simp, by simp⟩ ?_ ?_
  · rintro s P t howned harrives -
    exact howned.cons (l := .ready t) (Hub.ne_runForever_of_arrives harrives)
  · intro s P t halive _
    by_cases hrun : ∃ app, t = .runForever app
    · obtain ⟨app, rfl⟩ := hrun
      exact owned_runForever halive
    · exact ends_of_ready (fun _ _ h => h.tail)
        (alive_body (fun app h => hrun ⟨app, h⟩) s P [] halive)

/-- Along every run there is at most one thread for each websocket, and while there is one
its greenlet has not ended. -/
theorem owned_reach {c : Cond State Exc Op Op.Result Activity}
    {w : World State Exc Op Op.Result Activity} (h : (hub cfg).Reach c w) :
    Owned w.shared w.labels :=
  (owned_proof.sound (h.mono c.implies_any)).holds

end GeventSignalR
