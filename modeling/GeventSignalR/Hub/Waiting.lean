import GeventSignalR.Coop.Exits
import GeventSignalR.Hub.CloseCalls
import GeventSignalR.Hub.Ownership

/-!
# Waiting for a websocket

A greenlet that waits for its websocket waits for one that can still say something: a websocket
falls silent only while its own greenlet is at work, and then that greenlet reports its end.

* `Attends` is what a position says about the websocket it depends on.
* `Attending` is the invariant, with the owners of the websockets.
* `Listening` is what it says to a greenlet whose websocket still speaks, `Finishing` what it says
  to one that reports the end.
-/

namespace GeventSignalR

open Coop Coop.Prog WebsocketTransport

/-- The end of a websocket is reported. -/
def reportsEnd : Op → Bool
  | .callback (.onClose site) => site.isClosed || site.isFinal
  | _ => false

/-- The operation that is pending at a position. -/
def pendingOp : Label Op Activity → Option Op
  | .ready _ => none
  | .blocked _ op => some op

/-- The websocket has not fallen silent. -/
def Speaking (s : State) (app : Nat) : Prop :=
  ∃ a, s.apps[app]? = some a ∧ a.silent = false

/-- A greenlet that does not report the end of its websocket can still hear of it, and nobody else
waits for it. -/
structure Attends (s : State) (l : Label Op Activity) : Prop where
  speaking : ∀ app, l.thread = .runForever app → (pendingOp l).any reportsEnd = false →
    Speaking s app
  event : ∀ app, pendingOp l = some (.event app) → l.thread = .runForever app

/-- The invariant. -/
structure Attending (s : State) (P : Multiset (Label Op Activity)) : Prop where
  owned : Owned s P
  attends : ∀ l ∈ P, Attends s l

/-- The invariant to a running thread whose websocket still speaks, if it has one. -/
def Listening (t : Activity) : HubInv :=
  fun s P => Attending s (.ready t ::ₘ P)

/-- The invariant to a thread whose websocket may have fallen silent. -/
structure Finishing (t : Activity) (s : State) (P : Multiset (Label Op Activity)) : Prop where
  alive : Alive t s P
  attends : ∀ l ∈ P, Attends s l

variable {cfg : Config} {t : Activity} {s s' : State} {P : Multiset (Label Op Activity)} {app : Nat}
  {C : State → Multiset (Label Op Activity) → (op : Op) → Except Exc op.Result → Prop}

/-- What the proof assumes. -/
abbrev attending (cfg : Config) (t : Activity) : HubRely :=
  (hub cfg).rely .any Attending t

/-! ## Changes of the state -/

/-- What the invariant reads of the state. -/
def waitView (s : State) : List (Bool × Bool) :=
  s.apps.map fun a => (a.ended, a.silent)

theorem waitView_offSocket (hs : offSocket s' = offSocket s) : waitView s' = waitView s := by
  have hview : ∀ s, waitView (offSocket s) = waitView s := fun s => by
    simp [waitView, offSocket, offApp, Function.comp_def]
  rw [← hview, hs, hview]

theorem ended_of_waitView (hs : waitView s' = waitView s) :
    s'.apps.map (·.ended) = s.apps.map (·.ended) := by
  have happs := congrArg (fun view => view.map (·.1)) hs
  simpa [waitView, Function.comp_def] using happs

theorem Speaking.congr (h : Speaking s app) (hs : waitView s' = waitView s) : Speaking s' app := by
  obtain ⟨a, ha, hsilent⟩ := h
  have hget := congrArg (·[app]?) hs
  simp only [waitView, List.getElem?_map, ha, Option.map_some] at hget
  obtain ⟨a', ha', hsame⟩ := Option.map_eq_some_iff.mp hget
  exact ⟨a', ha', (congrArg Prod.snd hsame).trans hsilent⟩

theorem Attends.congr {l : Label Op Activity} (h : Attends s l) (hs : waitView s' = waitView s) :
    Attends s' l :=
  ⟨fun app hthread hending => (h.speaking app hthread hending).congr hs, h.event⟩

theorem Attending.congr (h : Attending s P) (hs : waitView s' = waitView s) : Attending s' P :=
  ⟨owned_congr h.owned (ended_of_waitView hs), fun l hl => (h.attends l hl).congr hs⟩

theorem Finishing.congr (h : Finishing t s P) (hs : waitView s' = waitView s) :
    Finishing t s' P :=
  ⟨owned_congr h.alive (ended_of_waitView hs), fun l hl => (h.attends l hl).congr hs⟩

theorem finishing_of_listening (h : Listening t s P) : Finishing t s P :=
  ⟨h.owned, fun l hl => h.attends l (Multiset.mem_cons_of_mem hl)⟩

theorem Finishing.attending (h : Finishing t s P) : Attending s P :=
  ⟨h.alive.tail, h.attends⟩

/-! ## Positions -/

/-- The running thread takes another position. -/
theorem Attending.move {l l' : Label Op Activity} (h : Attending s (l ::ₘ P))
    (hthread : l.thread = l'.thread) (hl : Attends s l → Attends s l') :
    Attending s (l' ::ₘ P) := by
  refine ⟨owned_congr_head h.owned hthread, ?_⟩
  intro other hother
  rcases Multiset.mem_cons.mp hother with rfl | hother
  · exact hl (h.attends l (Multiset.mem_cons_self l P))
  · exact h.attends other (Multiset.mem_cons_of_mem hother)

theorem Attends.block {op : Op} (h : Attends s (.ready t))
    (hop : ∀ app, op = .event app → t = .runForever app) : Attends s (.blocked t op) where
  speaking := fun app hthread _ => h.speaking app hthread rfl
  event := fun app hpending => hop app (Option.some.inj hpending)

/-- It goes on where it did not report the end of its websocket, or has none. -/
theorem Attends.unblock {op : Op} (h : Attends s (.blocked t op))
    (hop : (∀ app, t ≠ .runForever app) ∨ reportsEnd op = false) : Attends s (.ready t) where
  speaking := by
    intro app hthread _
    rcases hop with hnone | hop
    · exact absurd hthread (hnone app)
    · exact h.speaking app hthread hop
  event := by
    rintro app ⟨⟩

/-- The thread has no websocket, or its operations do not report the end of one. -/
def Heeds (t : Activity)
    (C : State → Multiset (Label Op Activity) → (op : Op) → Except Exc op.Result → Prop) : Prop :=
  ∀ s P op r, C s P op r → (∀ app, t ≠ .runForever app) ∨ reportsEnd op = false

/-! ## Leaves -/

theorem listening_modify {f : State → State} (hf : ∀ s, waitView (f s) = waitView s) :
    Keeps ⟨t, Attending, C⟩ (Listening t) (modify f : Hub Unit) :=
  Keeps.modify fun s _ h => h.congr (hf s)

theorem listening_perform (hC : Heeds t C) {op : Op}
    (hop : ∀ app, op = .event app → t = .runForever app) :
    Keeps ⟨t, Attending, C⟩ (Listening t) (perform op) :=
  Keeps.perform (fun _ _ h => h.move rfl fun hl => hl.block hop)
    fun s P r h hres => h.move rfl fun hl => hl.unblock (hC s P op r hres)

theorem listening_offSocket (hC : Heeds t C) : OffSocket ⟨t, Attending, C⟩ (Listening t) where
  congr := fun h hs => h.congr (waitView_offSocket hs)
  perform := fun {op} hop => listening_perform hC (by rintro app rfl; cases hop)
  fork := fun {t'} ht' => Keeps.fork fun s P h => by
    have howned : Owned s (.ready t' ::ₘ .ready t ::ₘ P) := h.owned.cons ht'
    rw [Multiset.cons_swap] at howned
    refine ⟨howned, fun l hl => ?_⟩
    rw [Multiset.cons_swap] at hl
    rcases Multiset.mem_cons.mp hl with rfl | hl
    · exact ⟨fun app hthread => absurd hthread (ht' app), by rintro app ⟨⟩⟩
    · exact h.attends l hl

/-- A new websocket speaks, and its greenlet attends to it. -/
theorem listening_createApp (cfg : Config) :
    Keeps ⟨t, Attending, C⟩ (Listening t) createApp := by
  intro s P h hI
  have hcreated : Keeps (owned cfg t) (Alive t) createApp := alive_createApp
  have howned := hcreated s P h hI.owned
  unfold createApp record at howned ⊢
  simp only [wp_bind, wp_get, wp_modify, wp_fork] at howned ⊢
  refine ⟨howned, fun l hl => ?_⟩
  rw [Multiset.cons_swap] at hl
  rcases Multiset.mem_cons.mp hl with rfl | hl
  · refine ⟨?_, by rintro app ⟨⟩⟩
    rintro app ⟨⟩ -
    exact ⟨_, List.getElem?_concat_length, rfl⟩
  · have hattends := hI.attends l hl
    refine ⟨fun app hthread hending => ?_, hattends.event⟩
    obtain ⟨a, ha, hsilent⟩ := hattends.speaking app hthread hending
    have hlt : app < s.apps.length := (List.getElem?_eq_some_iff.mp ha).1
    exact ⟨a, (List.getElem?_append_left hlt).trans ha, hsilent⟩

/-! ## The transport -/

theorem listening_start (hC : Heeds t C) :
    Keeps ⟨t, Attending, C⟩ (Listening t) (Connection.start cfg) :=
  Connection.keeps_start
    (Connection.keeps_refreshTokenMaybe (listening_perform hC (by simp))
      fun _ => listening_modify fun _ => rfl)
    (keeps_start (keeps_negotiate (fun _ _ => listening_perform hC (by simp))
        fun _ _ => listening_modify fun _ => rfl)
      ((listening_offSocket hC).setState _) (listening_createApp cfg))

theorem listening_killApp {app : Nat} : Keeps ⟨t, Attending, C⟩ (Listening t) (killApp app) :=
  keeps_killApp (fun _ => listening_modify fun _ => rfl)
    (listening_modify fun _ => map_modify (g := fun a => (a.ended, a.silent)) fun _ => rfl)

theorem listening_send (hC : Heeds t C) (message : Outgoing) :
    Keeps ⟨t, Attending, C⟩ (Listening t) (send cfg message) :=
  (listening_offSocket hC).send
    (keeps_reconnect (listening_offSocket hC).stopLost
      (keeps_killGreenlet (fun _ => listening_killApp) fun _ => listening_perform hC (by simp))
      (listening_modify fun _ => rfl) (listening_modify fun _ => rfl) (listening_start hC))
    fun _ => listening_perform hC (by simp)

theorem listening_dispatch (hC : Heeds t C) :
    Connection.KeepsDispatch ⟨t, Attending, C⟩ (Listening t) where
  calls := ⟨fun _ => listening_modify fun _ => rfl, fun _ _ => listening_perform hC (by simp)⟩
  dispatched := fun _ => listening_modify fun _ => rfl
  unregister := fun _ => listening_modify fun _ => rfl
  event := fun _ _ => listening_perform hC (by simp)
  error := fun _ => listening_perform hC (by simp)

theorem listening_onMessage (hC : Heeds t C) (raw : Raw) :
    Keeps ⟨t, Attending, C⟩ (Listening t) (onMessage cfg app raw) :=
  keeps_onMessage
    ((listening_offSocket hC).receive (fun _ => listening_modify fun _ => rfl)
      fun _ _ => listening_modify fun _ => rfl)
    fun _ => Connection.keeps_onMessage (fun _ => Connection.keeps_dispatch (listening_dispatch hC))
      ((listening_offSocket hC).stop _)

/-! ## The greenlet of a websocket -/

/-- What it is answered while it handles an event: it reports no end there. -/
def Minor (cfg : Config) (t : Activity) (s : State) (P : Multiset (Label Op Activity)) (op : Op)
    (r : Except Exc op.Result) : Prop :=
  (Cond.any.resume s P t op r ∧ (hub cfg).Possible s op r) ∧
    ∀ site, closeSite op = some site → WebSocketApp.IsMinor site

theorem heeds_minor : Heeds t (Minor cfg t) := by
  rintro s P op r ⟨-, hminor⟩
  right
  cases op with
  | callback callback =>
      cases callback with
      | onClose site =>
          obtain ⟨hclosed, hfinal⟩ := hminor site rfl
          simp [reportsEnd, hclosed, hfinal]
      | _ => rfl
  | _ => rfl

/-- The websocket may have fallen silent where it says no more. -/
def GoesOn (t : Activity) (another : Bool) : HubInv :=
  if another then Listening t else Finishing t

/-- The websocket falls silent, and nobody else waits for it. -/
theorem finishing_setSilent (h : Finishing (.runForever app) s P) :
    Finishing (.runForever app)
      { s with apps := s.apps.modify app fun a => { a with silent := true } } P := by
  refine ⟨owned_congr h.alive (map_modify (g := App.ended) fun _ => rfl), fun l hl => ?_⟩
  have hattends := h.attends l hl
  refine ⟨fun other hthread hending => ?_, hattends.event⟩
  have hne : app ≠ other := by
    rintro rfl
    have hother := h.alive.unique hl
    rw [isOf_runForever app l hthread] at hother
    cases hother
  obtain ⟨a, ha, hsilent⟩ := hattends.speaking other hthread hending
  exact ⟨a, by simp [hne, ha], hsilent⟩

theorem finishing_modify {f : State → State} (hf : ∀ s, waitView (f s) = waitView s) :
    Keeps (attending cfg t) (Finishing t) (modify f : Hub Unit) :=
  Keeps.modify fun s _ h => h.congr (hf s)

/-- The end of the websocket is reported. -/
theorem finishing_perform {op : Op} (hop : reportsEnd op = true) :
    Keeps (attending cfg t) (Finishing t) (perform op) := by
  have hevent : ∀ app, op ≠ .event app := by
    rintro app rfl
    cases hop
  have hattends : ∀ s, Attends s (.blocked t op) := fun s =>
    ⟨fun app _ hending => by simp [pendingOp, hop] at hending,
      fun app hpending => absurd (Option.some.inj hpending) (hevent app)⟩
  refine Keeps.perform (fun s P h => ⟨owned_congr_head h.alive rfl, fun l hl => ?_⟩)
    fun s P r h _ => ⟨owned_congr_head h.owned rfl, fun l hl =>
      h.attends l (Multiset.mem_cons_of_mem hl)⟩
  rcases Multiset.mem_cons.mp hl with rfl | hl
  · exact hattends s
  · exact h.attends l hl

theorem finishing_reportEnd (site : CloseSite) :
    Keeps (attending cfg t) (Finishing t) (reportEnd site) :=
  keeps_reportEnd (finishing_modify fun _ => rfl)
    (Keeps.bind (finishing_modify fun _ => rfl) fun _ => Keeps.when fun _ =>
      finishing_modify fun _ => rfl)

theorem finishing_failed :
    Keeps (attending cfg t) (Finishing t) (onSocketError (.failed app true)) :=
  keeps_onSocketError (finishing_reportEnd _) (finishing_perform rfl)

/-- The handling of an event leaves a websocket that speaks, or there is no other round. -/
theorem goesOn_handle {event : WsEvent} :
    Exits (fun _ => 0) (attending cfg (.runForever app)) (Listening (.runForever app))
      (GoesOn (.runForever app)) (fun _ => Finishing (.runForever app))
      (WebSocketApp.handle cfg app event) := by
  -- where the greenlet goes on, it has reported no end
  have hgoing : Keeps ⟨.runForever app, Attending, Minor cfg (.runForever app)⟩
      (Listening (.runForever app)) (WebSocketApp.handle cfg app event) →
        Exits (fun _ => 0) (attending cfg (.runForever app)) (Listening (.runForever app))
          (GoesOn (.runForever app)) (fun _ => Finishing (.runForever app))
          (WebSocketApp.handle cfg app event) := by
    intro hkeeps
    have hall : Keeps (attending cfg (.runForever app)) (Listening (.runForever app))
        (WebSocketApp.handle cfg app event) := fun s P h hI =>
      wp_of_only (WebSocketApp.calls_handle event) (hkeeps s P h hI)
    refine (Exits.of_keeps hall).mono (fun _ _ h => h) (fun another s P h => ?_)
      fun _ _ _ h => finishing_of_listening h
    cases another with
    | true => exact h
    | false => exact finishing_of_listening h
  have hsilent : Exits (fun _ => 0) (attending cfg (.runForever app)) (Listening (.runForever app))
      (fun _ => Finishing (.runForever app)) (fun _ => Finishing (.runForever app))
      (setApp app fun a => { a with silent := true }) :=
    Exits.modify fun s P h => finishing_setSilent (finishing_of_listening h)
  have hoff : OffSocket ⟨.runForever app, Attending, Minor cfg (.runForever app)⟩
      (Listening (.runForever app)) := listening_offSocket heeds_minor
  cases event with
  | opened =>
      exact hgoing (WebSocketApp.keeps_handleOpened (hoff.setApp fun _ => rfl)
        (hoff.callback (listening_send heeds_minor _)))
  | message raw =>
      exact hgoing (WebSocketApp.keeps_handleMessage
        (hoff.callback (listening_onMessage heeds_minor raw)))
  | failed e => exact Exits.bind hsilent fun _ => Exits.raise fun _ _ h => h
  | closed => exact Exits.bind hsilent fun _ => Exits.pure _ fun _ _ h => h

theorem goesOn_round :
    Exits (fun _ => 0) (attending cfg (.runForever app)) (Listening (.runForever app))
      (GoesOn (.runForever app)) (fun _ => Finishing (.runForever app))
      (WebSocketApp.round cfg app) := by
  have hevent : Keeps (attending cfg (.runForever app)) (Listening (.runForever app))
      (WebSocketApp.nextEvent app) :=
    Keeps.perform (fun _ _ h => h.move rfl fun hl => hl.block (by rintro other ⟨⟩; rfl))
      fun _ _ _ h _ => h.move rfl fun hl => hl.unblock (.inr rfl)
  have hnext : Exits (fun _ => 0) (attending cfg (.runForever app)) (Listening (.runForever app))
      (fun _ => Listening (.runForever app)) (fun _ => Finishing (.runForever app))
      (WebSocketApp.nextEvent app) :=
    (Exits.of_keeps hevent).mono (fun _ _ h => h) (fun _ _ _ h => h)
      fun _ _ _ h => finishing_of_listening h
  have hdisconnect : ∀ e, Exits (fun _ => 0) (attending cfg (.runForever app))
      (Finishing (.runForever app)) (GoesOn (.runForever app))
      (fun _ => Finishing (.runForever app)) (WebSocketApp.disconnect app e) := by
    intro e
    refine Exits.ite (fun _ => ?_) fun _ => Exits.raise fun _ _ h => h
    have hfailed : Exits (fun _ => 0) (attending cfg (.runForever app))
        (Finishing (.runForever app)) (fun _ => Finishing (.runForever app))
        (fun _ => Finishing (.runForever app))
        (WebSocketApp.callback app true (onSocketError (.failed app true))) :=
      Exits.of_keeps (WebSocketApp.keeps_callback finishing_failed finishing_failed)
    exact Exits.bind hfailed fun _ => Exits.pure _ fun _ _ h => h
  exact Exits.tryCatch (Exits.bind hnext fun _ => goesOn_handle) hdisconnect

/-- What holds when a body ends. -/
abbrev AttendingEnd (t : Activity) : Post State Exc Op Op.Result Activity Bool :=
  Ends Attending (fun _ _ _ _ => True) t

/-- A greenlet that has ended attends to nothing. -/
theorem finishing_setEnded (h : Finishing (.runForever app) s P) :
    Attending { s with apps := s.apps.modify app fun a => { a with ended := true } } P := by
  refine ⟨owned_ended h.alive, fun l hl => ?_⟩
  have hattends := h.attends l hl
  refine ⟨fun other hthread hending => ?_, hattends.event⟩
  obtain ⟨a, ha, hsilent⟩ := hattends.speaking other hthread hending
  have hget : (s.apps.modify app fun a => { a with ended := true })[other]? =
      some (if app = other then { a with ended := true } else a) := by
    rw [List.getElem?_modify, ha]
    split_ifs <;> rfl
  refine ⟨_, hget, ?_⟩
  split_ifs <;> exact hsilent

theorem attending_teardown {h : List (Logged State Exc Op Op.Result)}
    (hI : Finishing (.runForever app) s P) :
    (WebSocketApp.teardown app).wp (attending cfg (.runForever app))
      (fun _ s P _ => Attending s P) s P h := by
  have hclosed : Keeps (attending cfg (.runForever app)) (Finishing (.runForever app))
      (WebSocketApp.callback app true (onClosed app)) :=
    WebSocketApp.keeps_callback (keeps_onClosed (finishing_reportEnd _) (finishing_perform rfl))
      finishing_failed
  unfold WebSocketApp.teardown
  simp only [wp_bind, wp_finally, setApp, wp_modify]
  exact wp_mono (fun _ s P _ hI => finishing_setEnded hI)
    (hclosed _ P h (finishing_setSilent hI))

/-- A round that another one follows leaves a websocket that speaks. -/
theorem attending_endRound {r : Except Exc Bool} {h : List (Logged State Exc Op Op.Result)}
    (hI : GoesOn (.runForever app) (r.toOption.getD false) s P) :
    (WebSocketApp.endRound app r).wp (attending cfg (.runForever app))
      (AttendingEnd (.runForever app)) s P h := by
  have hend : ∀ r : Except Exc Bool, r ≠ .ok true → Finishing (.runForever app) s P →
      (WebSocketApp.teardown app >>= fun _ => (ofExcept r : Hub Bool)).wp
        (attending cfg (.runForever app)) (AttendingEnd (.runForever app)) s P h := by
    intro r hr hI
    rw [wp_bind]
    refine wp_mono ?_ (attending_teardown hI)
    rintro (e | _) s P h hI
    · exact ⟨trivial, hI⟩
    · rw [wp_ofExcept]
      rcases r with e | _ | _
      · exact ⟨trivial, hI⟩
      · exact ⟨trivial, hI⟩
      · exact absurd rfl hr
  rcases r with e | _ | _
  · exact hend _ (by simp) hI
  · exact hend _ (by simp) hI
  · exact ⟨trivial, hI⟩

theorem attending_runForever {h : List (Logged State Exc Op Op.Result)}
    (hI : Listening (.runForever app) s P) :
    (WebSocketApp.runForever cfg app).wp (attending cfg (.runForever app))
      (AttendingEnd (.runForever app)) s P h := by
  have hstarted : Keeps (attending cfg (.runForever app)) (Listening (.runForever app))
      (setApp app fun a => { a with started := true }) :=
    listening_modify fun _ => map_modify (g := fun a => (a.ended, a.silent)) fun _ => rfl
  unfold WebSocketApp.runForever
  simp only [wp_bind, wp_get]
  split_ifs
  · exact ⟨trivial, finishing_setEnded (finishing_of_listening hI)⟩
  · rw [wp_bind]
    refine wp_mono ?_ (hstarted s P h hI)
    rintro (e | _) s P h hI
    · exact ⟨trivial, (finishing_of_listening hI).attending⟩
    rw [wp_bind, wp_attempt]
    refine wp_mono ?_ (wp_of_wpFrom (fun _ _ => le_rfl) (goesOn_round s P h hI))
    rintro (e | another) s P h hI
    · exact attending_endRound hI
    · exact attending_endRound hI

/-! ## Runs -/

theorem listening_activities (hC : Heeds t C) :
    KeepsActivities ⟨t, Attending, C⟩ (Listening t) cfg where
  send := listening_send hC
  auth := listening_perform hC (by simp)
  sleep := fun _ => listening_perform hC (by simp)
  acquire := fun _ => listening_perform hC (by simp)
  register := fun _ =>
    Connection.keeps_register (listening_modify fun _ => rfl) (listening_modify fun _ => rfl)
  modify := fun hf => listening_modify fun s =>
    (congrArg (fun s : State => waitView s) (hf s) :)

/-- A thread without a websocket. -/
theorem listening_body (hnone : ∀ app, t ≠ .runForever app) :
    Keeps (attending cfg t) (Listening t) (Hub.body cfg t) := by
  have hC : Heeds t fun s P op r => Cond.any.resume s P t op r ∧ (hub cfg).Possible s op r :=
    fun _ _ _ _ _ => .inl hnone
  by_cases hstart : t = .start
  · subst hstart
    exact keeps_once (Keeps.bind (listening_modify fun _ => rfl) fun _ => listening_start hC)
  · by_cases hstop : t = .stop
    · subst hstop
      exact keeps_once (Keeps.finally_ ((listening_offSocket hC).stop _)
        (listening_modify fun _ => rfl))
    · exact (listening_activities hC).body hstart hstop fun app h => absurd h (hnone app)

theorem attending_proof : Proof (hub cfg) .any Attending fun _ _ _ _ => True := by
  have henter : KeepsEntering .any Attending :=
    { inv := fun _ _ _ h => h.congr rfl
      start := fun _ _ _ _ h => h
      resume := fun _ _ _ _ _ _ h => h }
  apply Hub.proof henter
  · exact ⟨⟨by simp, by simp⟩, by simp⟩
  · rintro s P t h harrives -
    have hnone := Hub.ne_runForever_of_arrives harrives
    refine ⟨h.owned.cons (l := .ready t) hnone, fun l hl => ?_⟩
    rcases Multiset.mem_cons.mp hl with rfl | hl
    · exact ⟨fun app hthread => absurd hthread (hnone app), by rintro app ⟨⟩⟩
    · exact h.attends l hl
  · intro s P t h _
    by_cases hrun : ∃ app, t = .runForever app
    · obtain ⟨app, rfl⟩ := hrun
      exact attending_runForever h
    · exact ends_of_ready (fun _ _ h => (finishing_of_listening h).attending)
        (listening_body (fun app h => hrun ⟨app, h⟩) s P [] h)

/-- A greenlet that waits for a websocket waits for its own one, which has neither ended nor fallen
silent. -/
theorem attending_reach {c : Cond State Exc Op Op.Result Activity}
    {w : World State Exc Op Op.Result Activity} (h : (hub cfg).Reach c w) :
    Attending w.shared w.labels :=
  (attending_proof.sound (h.mono c.implies_any)).holds

end GeventSignalR
