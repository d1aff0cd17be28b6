import GeventSignalR.Coop.Balance
import GeventSignalR.Hub.Ownership

/-!
# The greenlets of the websockets

`start` creates a websocket and spawns its greenlet, which says at its end that it has ended, on
every path: when the websocket closes or fails, when a callback raises, and when it is killed.

* `socketTally` is the tally of one websocket: it is unfinished as often as a position is one of
  its greenlet.
* `sockets_reach`: in every run a websocket has one greenlet until it has ended, and none behind it.
-/

namespace GeventSignalR

open Coop Coop.Prog WebsocketTransport

/-- The websocket was created and has not ended. -/
def isUnfinished (app : Nat) (s : State) : Bool :=
  s.apps[app]?.any fun a => !a.ended

/-- The websocket, and who runs it. -/
def socketTally (app : Nat) : Tally State Op Activity :=
  .counting (fun s => (isUnfinished app s).toNat) (isOf app)

/-- What the running thread has to do with the websocket. -/
abbrev Runs (app : Nat) (t : Activity) : HubInv :=
  Tallied (socketTally app) (isOf app (.ready t)).toNat

variable {cfg : Config} {t : Activity} {s s' : State} {P : Multiset (Label Op Activity)}
  {app other : Nat}

/-- What the proof assumes. -/
abbrev running (cfg : Config) (app : Nat) (t : Activity) : HubRely :=
  (hub cfg).rely .any (Tallied (socketTally app) 0) t

theorem socketTally_share (l : Label Op Activity) :
    (socketTally app).share l = (isOf app l).toNat := by
  show (if isOf app l then 1 else 0) = _
  cases isOf app l <;> rfl

/-- A thread has the same to do with the websocket wherever it stands. -/
theorem share_blocked (op : Op) :
    (socketTally app).share (.blocked t op) = (isOf app (.ready t)).toNat := by
  rw [socketTally_share]
  exact congrArg Bool.toNat (isOf_congr rfl app)

/-! ## Leaves -/

theorem isUnfinished_congr (hs : s'.apps.map (·.ended) = s.apps.map (·.ended)) :
    isUnfinished app s' = isUnfinished app s := by
  have hget := congrArg (·[app]?) hs
  simp only [List.getElem?_map] at hget
  unfold isUnfinished
  cases h : s.apps[app]? <;> cases h' : s'.apps[app]? <;> simp_all

theorem runs_modify {f : State → State} (hf : ∀ s, (f s).apps.map (·.ended) = s.apps.map (·.ended)) :
    Keeps (running cfg app t) (Runs app t) (modify f : Hub Unit) :=
  Tallied.modify fun s => by
    show (isUnfinished app (f s)).toNat = (isUnfinished app s).toNat
    rw [isUnfinished_congr (hf s)]

theorem runs_perform (op : Op) : Keeps (running cfg app t) (Runs app t) (perform op) :=
  Tallied.perform (share_blocked op)

theorem runs_setApp {f : App → App} (hf : ∀ a, (f a).ended = a.ended) :
    Keeps (running cfg app t) (Runs app t) (setApp other f) :=
  runs_modify fun _ => map_modify hf

theorem runs_offSocket : OffSocket (running cfg app t) (Runs app t) where
  congr := fun {s s' P} h hs => h.congr (by
    have hfactor : ∀ s, s.apps.map (·.ended) = (offSocket s).apps.map (·.ended) := fun s => by
      simp [offSocket, offApp, Function.comp_def]
    have hended : s'.apps.map (·.ended) = s.apps.map (·.ended) := by rw [hfactor s', hs, ← hfactor]
    show (isUnfinished app s').toNat = (isUnfinished app s).toNat
    rw [isUnfinished_congr hended])
  perform := fun _ => runs_perform _
  fork := fun {t'} ht' => Tallied.fork (by
    rw [socketTally_share, isOf_eq_false (l := .ready t') ht']
    rfl)

/-! ## Creations and ends -/

/-- A new websocket is unfinished, and its greenlet is there. -/
theorem runs_createApp : Keeps (running cfg app t) (Runs app t) createApp := by
  intro s P h hI
  unfold createApp record
  simp only [wp_bind, wp_get, wp_modify, wp_fork]
  let new : App := newApp s.url s.oldHeaders.length (!s.history.current.isStart)
  have hready : (socketTally app).share (.ready (.runForever s.apps.length)) =
      (s.apps.length == app).toNat := by
    rw [socketTally_share]
    rfl
  have hcreated : (Option.any (fun a => !a.ended) (s.apps ++ [new])[app]?).toNat =
      (isUnfinished app s).toNat + (s.apps.length == app).toNat := by
    unfold isUnfinished
    rcases lt_trichotomy app s.apps.length with hlt | heq | hgt
    · rw [List.getElem?_append_left hlt]
      simp [hlt.ne']
    · rw [heq, List.getElem?_concat_length, List.getElem?_eq_none (le_refl _)]
      simp [new, newApp]
    · rw [List.getElem?_eq_none (by simp; omega), List.getElem?_eq_none hgt.le]
      have hother : (s.apps.length == app) = false := beq_false_of_ne hgt.ne
      simp [hother]
  exact Tallied.hand (Tallied.gain (n := (s.apps.length == app).toNat) hI hcreated) hready

theorem runs_start : Keeps (running cfg app t) (Runs app t) (Connection.start cfg) :=
  Connection.keeps_start
    (Connection.keeps_refreshTokenMaybe (runs_perform _) fun _ => runs_modify fun _ => rfl)
    (keeps_start (keeps_negotiate (fun _ _ => runs_perform _) fun _ _ => runs_modify fun _ => rfl)
      (runs_offSocket.setState _) runs_createApp)

theorem runs_send (message : Outgoing) :
    Keeps (running cfg app t) (Runs app t) (send cfg message) :=
  runs_offSocket.send
    (keeps_reconnect runs_offSocket.stopLost
      (keeps_killGreenlet (fun _ => keeps_killApp (fun _ => runs_modify fun _ => rfl)
        (runs_setApp fun _ => rfl)) fun _ => runs_perform _)
      (runs_modify fun _ => rfl) (runs_modify fun _ => rfl) runs_start)
    fun _ => runs_perform _

/-- The greenlet of a websocket ends with it. -/
theorem runs_setEnded (h : Runs app (.runForever other) s P) :
    Tallied (socketTally app) 0
      { s with apps := s.apps.modify other fun a => { a with ended := true } } P := by
  apply Tallied.lose (n := (isOf app (.ready (.runForever other))).toNat)
  · rw [zero_add]
    exact h
  show (Option.any _ (s.apps.modify other _)[app]?).toNat + (other == app).toNat =
    (isUnfinished app s).toNat
  rw [List.getElem?_modify]
  by_cases heq : other = app
  · -- the one that ends was unfinished, because its greenlet is here
    subst heq
    have hpos : 0 < (isUnfinished other s).toNat := by
      have hamount : (isUnfinished other s).toNat = (other == other).toNat + _ := h
      rw [beq_self_eq_true, Bool.toNat_true] at hamount
      omega
    unfold isUnfinished at hpos ⊢
    cases hget : s.apps[other]? with
    | none => simp [hget] at hpos
    | some a =>
        have hended : a.ended = false := by
          cases ha : a.ended with
          | false => rfl
          | true => simp [hget, ha] at hpos
        simp [hended]
  · unfold isUnfinished
    cases s.apps[app]? <;> simp [heq]

/-! ## Activities -/

theorem runs_round (other : Nat) :
    Keeps (running cfg app t) (Runs app t) (WebSocketApp.round cfg other) := by
  have hdispatch : Connection.KeepsDispatch (running cfg app t) (Runs app t) :=
    { calls := ⟨fun _ => runs_modify fun _ => rfl, fun _ _ => runs_perform _⟩
      dispatched := fun _ => runs_modify fun _ => rfl
      unregister := fun _ => runs_modify fun _ => rfl
      event := fun _ _ => runs_perform _
      error := fun _ => runs_perform _ }
  have hevent : (socketTally app).share (.blocked t (.event other)) =
      (isOf app (.ready t)).toNat := share_blocked _
  refine runs_offSocket.round runs_send (fun _ _ _ h _ => h.resume hevent)
    (fun _ _ h => h.settle hevent) ?_ (runs_setApp fun _ => rfl)
  intro raw s P h hI _
  exact WebSocketApp.keeps_handleMessage (runs_offSocket.callback
    (keeps_onMessage
      (runs_offSocket.receive (fun _ => runs_modify fun _ => rfl) fun _ _ => runs_modify fun _ => rfl)
      fun _ => Connection.keeps_onMessage (fun _ => Connection.keeps_dispatch hdispatch)
        (runs_offSocket.stop _))) s P h (hI.resume hevent)

/-- Every end of a round that no other one follows is the end of the greenlet. -/
theorem runs_runForever {h : List (Logged State Exc Op Op.Result)}
    (hI : Runs app (.runForever other) s P) :
    (WebSocketApp.runForever cfg other).wp (running cfg app (.runForever other))
      (Ends (Tallied (socketTally app) 0) (fun _ _ _ _ => True) (.runForever other)) s P h := by
  have hteardown : ∀ s P h, Runs app (.runForever other) s P →
      (WebSocketApp.teardown other).wp (running cfg app (.runForever other))
        (fun _ s P _ => Tallied (socketTally app) 0 s P) s P h := by
    intro s P h hI
    have hsilent : Keeps (running cfg app (.runForever other)) (Runs app (.runForever other))
        (setApp other fun a => { a with silent := true }) := runs_setApp fun _ => rfl
    have hclosed : Keeps (running cfg app (.runForever other)) (Runs app (.runForever other))
        (WebSocketApp.callback other true (onClosed other)) :=
      runs_offSocket.callback (runs_offSocket.onClosed other)
    unfold WebSocketApp.teardown
    rw [wp_bind]
    simp only [wp_finally, setApp, wp_modify]
    exact wp_mono (fun _ s P _ hI => runs_setEnded hI) (hclosed _ P h (hsilent.apply hI))
  have hstarted : Keeps (running cfg app (.runForever other)) (Runs app (.runForever other))
      (setApp other fun a => { a with started := true }) := runs_setApp fun _ => rfl
  unfold WebSocketApp.runForever
  simp only [wp_bind, wp_get]
  split_ifs
  · exact ⟨trivial, runs_setEnded hI⟩
  · rw [wp_bind]
    simp only [setApp, wp_modify]
    rw [wp_bind, wp_attempt]
    refine wp_mono ?_ (runs_round other _ P h (hstarted.apply hI))
    intro r s P h hI
    exact WebSocketApp.ends_endRound (hteardown s P h hI) (hI.settle (socketTally_share _))

theorem runs_body (hnone : ∀ other, t ≠ .runForever other) :
    Keeps (running cfg app t) (Runs app t) (Hub.body cfg t) := by
  have hactivities : KeepsActivities (running cfg app t) (Runs app t) cfg :=
    { send := runs_send
      auth := runs_perform _
      sleep := fun _ => runs_perform _
      acquire := fun _ => runs_perform _
      register := fun _ =>
        Connection.keeps_register (runs_modify fun _ => rfl) (runs_modify fun _ => rfl)
      modify := fun hf => runs_modify fun s => congrArg (·.apps.map (·.ended)) (hf s) }
  by_cases hstart : t = .start
  · subst hstart
    exact keeps_once (Keeps.bind (runs_modify fun _ => rfl) fun _ => runs_start)
  · by_cases hstop : t = .stop
    · subst hstop
      exact keeps_once (Keeps.finally_ (runs_offSocket.stop _) (runs_modify fun _ => rfl))
    · exact hactivities.body hstart hstop fun other h => absurd h (hnone other)

/-! ## Runs -/

theorem sockets_proof (app : Nat) :
    Proof (hub cfg) .any (Tallied (socketTally app) 0) fun _ _ _ _ => True := by
  have hshare : ∀ t, (∀ other, t ≠ .runForever other) →
      (socketTally app).share (.ready t) = 0 := by
    intro t hnone
    rw [socketTally_share, isOf_eq_false (l := .ready t) hnone]
    rfl
  have henter : KeepsEntering .any (Tallied (socketTally app) 0) :=
    { inv := fun _ _ _ h => h
      start := fun _ _ _ _ h => h
      resume := fun _ _ _ _ _ _ h => h }
  apply Hub.proof henter
  · rfl
  · exact fun _ _ t h harrives _ => h.settle (hshare t (Hub.ne_runForever_of_arrives harrives))
  · intro s P t h _
    have hI : Runs app t s P := h.resume (socketTally_share _)
    by_cases hrun : ∃ other, t = .runForever other
    · obtain ⟨other, rfl⟩ := hrun
      exact runs_runForever hI
    · have hnone : ∀ other, t ≠ .runForever other := fun other h => hrun ⟨other, h⟩
      have hzero : (isOf app (.ready t)).toNat = 0 := by
        rw [isOf_eq_false (l := .ready t) hnone]
        rfl
      refine wp_mono ?_ (runs_body hnone s P [] hI)
      intro r s P h hI
      rw [Runs, hzero] at hI
      refine ⟨trivial, ?_⟩
      split
      · exact hI.settle (hshare t hnone)
      · exact hI

/-- In every run a websocket that was created has exactly one greenlet until it has ended, and none
from then on: no greenlet is lost, and none is left over. -/
theorem sockets_reach {w : World State Exc Op Op.Result Activity} (h : (hub cfg).Reach .any w)
    (app : Nat) :
    (w.labels.countP fun l => isOf app l = true) = if isUnfinished app w.shared then 1 else 0 := by
  rw [((sockets_proof app).sound h).holds.countP]
  cases isUnfinished app w.shared <;> rfl

/-- A run in which one greenlet has ended and another one has not. -/
theorem sockets_two :
    ∃ w, (hub (.direct none)).Reach .any w ∧ w.shared.apps.length = 2 ∧
      (w.labels.countP fun l => isOf 0 l = true) = 0 ∧
      (w.labels.countP fun l => isOf 1 l = true) = 1 := by
  have h := (hub (.direct none)).reach_after [.fork .start, .start 0, .fork .start, .start 2,
    .start 1, .answer 1 (.happened .closed)] .start rfl
  exact ⟨_, h, rfl, sockets_reach h 0, sockets_reach h 1⟩

end GeventSignalR
