import GeventSignalR.Hub.Keeps

/-!
# One websocket at a time

`start` and `handle_reconnect` read, kill, negotiate and spawn in several steps and
without a lock.  As long as one of them is at work at a time, at most one websocket
is alive.

* `Orderly` are the steps that keep restarts apart.
* `Single` is the invariant.
-/

namespace GeventSignalR

open Coop Coop.Prog

/-- No thread is inside a restart. -/
def NoRestart (P : Multiset (Label Op Activity)) : Prop :=
  ∀ l ∈ P, isRestart l = false

/-- Every `run_forever` greenlet has ended. -/
def AllEnded (s : State) : Prop :=
  ∀ app ∈ s.apps, app.ended = true

/-- A `start()` in this state returns at once. -/
def StartsNothing (cfg : Config) (s : State) : Prop :=
  cfg.auth = false ∧ cfg.skipNegotiation = true ∧ s.state = .connected

/-- The websocket whose greenlet a `kill` that returns has killed. -/
def killed : (op : Op) → Except Exc op.Result → Option Nat
  | .kill app, .ok _ => some app
  | _, _ => none

/-- Restarts do not overlap: the user calls `start()` only when it does nothing, or when
no greenlet is unfinished and no restart is at work; a restart goes on only while no other
one is at work; and `kill` returns because the greenlet has ended. -/
def Orderly (cfg : Config) : Cond State Exc Op Op.Result Activity where
  fork := fun _ _ _ => True
  start := fun s P t => t.isStart = true → StartsNothing cfg s ∨ AllEnded s ∧ NoRestart P
  resume := fun s P t op r =>
    (isRestart (.blocked t op) = true → NoRestart P) ∧
      ∀ app ∈ killed op r, ∀ a ∈ s.apps[app]?, a.ended = true

instance (P : Multiset (Label Op Activity)) : Decidable (NoRestart P) :=
  inferInstanceAs (Decidable (∀ l ∈ P, isRestart l = false))

instance (s : State) : Decidable (AllEnded s) :=
  inferInstanceAs (Decidable (∀ app ∈ s.apps, app.ended = true))

instance (cfg : Config) (s : State) : Decidable (StartsNothing cfg s) :=
  inferInstanceAs (Decidable (_ ∧ _ ∧ _))

instance (cfg : Config) : System.Decides (Orderly cfg) where
  fork := fun _ _ _ => isTrue trivial
  start := fun _ _ _ => inferInstanceAs (Decidable (_ → _))
  resume := fun _ _ _ _ _ => inferInstanceAs (Decidable (_ ∧ _))

/-- A greenlet that has not ended is the stored one, and its websocket is the stored
one. -/
def Stored (s : State) : Prop :=
  ∀ app a, s.apps[app]? = some a → a.ended = false → s.ws = some app ∧ s.greenlet = some app

/-- What a position inside a restart says: `kill` waits for the stored greenlet, and
behind it every greenlet has ended. -/
def RestartAt (s : State) : Label Op Activity → Prop
  | .blocked _ (.kill app) => s.greenlet = some app
  | .blocked _ (.auth .start) => AllEnded s
  | .blocked _ (.post ..) => AllEnded s
  | _ => True

/-- What holds of the state: the unfinished greenlet is the stored one, and no
websocket was created while an older one was alive. -/
structure SingleState (s : State) : Prop where
  stored : Stored s
  created : ∀ c ∈ s.history.creations, c.unfinished = 0

/-- The invariant. -/
def Single : State → Multiset (Label Op Activity) → Prop :=
  Pointwise SingleState RestartAt

/-- What the invariant reads of the state: the ends of the greenlets, the stored
websocket, and the circumstances of the creations. -/
def websockets (s : State) : List Bool × Option Nat × Option Nat × List Creation :=
  (s.apps.map (·.ended), s.ws, s.greenlet, s.history.creations)

variable {cfg : Config} {t : Activity}

/-- What the proof assumes. -/
abbrev orderly (cfg : Config) (t : Activity) : HubRely :=
  (hub cfg).rely (Orderly cfg) Single t

/-! ## Leaves -/

theorem allEnded_iff {s : State} :
    AllEnded s ↔ ∀ (app : Nat) (a : App), s.apps[app]? = some a → a.ended = true := by
  constructor
  · intro h app a ha
    exact h a (List.mem_of_getElem? ha)
  · intro h a ha
    obtain ⟨app, happ⟩ := List.getElem?_of_mem ha
    exact h app a happ

/-- Every websocket has one before that has ended as well, or was as unfinished. -/
theorem ended_of_map {apps apps' : List App} (h : apps'.map (·.ended) = apps.map (·.ended))
    {app : Nat} {a' : App} (ha : apps'[app]? = some a') :
    ∃ a, apps[app]? = some a ∧ a.ended = a'.ended := by
  have hget := congrArg (·[app]?) h
  simp only [List.getElem?_map, ha, Option.map_some] at hget
  exact Option.map_eq_some_iff.mp hget.symm

theorem allEnded_congr {s s' : State} (h : AllEnded s)
    (hs : s'.apps.map (·.ended) = s.apps.map (·.ended)) : AllEnded s' := by
  rw [allEnded_iff] at h ⊢
  intro app a' ha'
  obtain ⟨a, ha, hended⟩ := ended_of_map hs ha'
  exact hended ▸ h app a ha

/-- The invariant in a state that agrees on it. -/
theorem single_congr {s s' : State} {P : Multiset (Label Op Activity)} (h : Single s P)
    (hs : websockets s' = websockets s) : Single s' P := by
  simp only [websockets, Prod.mk.injEq] at hs
  obtain ⟨happs, hws, hgreenlet, hcreations⟩ := hs
  refine ⟨⟨?_, by simpa only [hcreations] using h.base.created⟩, fun l hl => ?_⟩
  · intro app a' ha' halive
    obtain ⟨a, ha, hended⟩ := ended_of_map happs ha'
    rw [hws, hgreenlet]
    exact h.base.stored app a ha (hended.trans halive)
  · have hat := h.at_ l hl
    revert hat
    unfold RestartAt
    split
    · rw [hgreenlet]
      exact id
    · exact fun hat => allEnded_congr hat happs
    · exact fun hat => allEnded_congr hat happs
    · exact id

/-- A greenlet that ends. -/
theorem single_setEnded {app : Nat} :
    Keeps (orderly cfg t) Single (setApp app fun a => { a with ended := true }) := by
  refine Keeps.modify fun s P h => ⟨⟨?_, h.base.created⟩, fun l hl => ?_⟩
  · intro app' a' ha' halive
    obtain ⟨a, ha, rfl⟩ := getElem?_modify_some ha'
    refine h.base.stored app' a ha ?_
    split_ifs at halive
    exact halive
  · have hmodify : AllEnded s →
        AllEnded { s with apps := s.apps.modify app fun a => { a with ended := true } } := by
      rw [allEnded_iff, allEnded_iff]
      intro hended app' a' ha'
      obtain ⟨a, ha, rfl⟩ := getElem?_modify_some ha'
      split_ifs
      · rfl
      · exact hended app' a ha
    have hat := h.at_ l hl
    revert hat
    unfold RestartAt
    split
    · exact id
    · exact hmodify
    · exact hmodify
    · exact id

/-- A change that does not concern the websockets. -/
theorem single_modify {f : State → State} (hf : ∀ s, websockets (f s) = websockets s) :
    Keeps (orderly cfg t) Single (modify f : Hub Unit) :=
  Keeps.modify fun s _ h => single_congr h (hf s)

theorem restartAt_of_not {s : State} {l : Label Op Activity} (h : isRestart l = false) :
    RestartAt s l := by
  revert h
  unfold isRestart RestartAt
  split <;> simp

theorem single_perform {op : Op} (hop : isRestart (.blocked t op) = false) :
    Keeps (orderly cfg t) Single (perform op) :=
  Pointwise.perform fun _ _ => restartAt_of_not hop

theorem single_offSocket : OffSocket (orderly cfg t) Single where
  congr := fun {s s' P} h hs => by
    have hfactor : ∀ s, websockets s = websockets (offSocket s) := fun s => by
      simp [websockets, offSocket, offApp, Function.comp_def]
    refine single_congr h ?_
    rw [hfactor s', hs, ← hfactor]
  perform := fun hplain => single_perform (isRestart_of_isPlain hplain t)
  fork := fun _ => Pointwise.fork fun _ _ => trivial

/-! ## Restarts -/

/-- Between `kill` and the creation of a websocket, no greenlet is unfinished, and no
other restart is at work. -/
structure Idle (s : State) (P : Multiset (Label Op Activity)) : Prop where
  single : Single s P
  ended : AllEnded s
  noRestart : NoRestart P

/-- A change that does not concern the websockets leaves a restart where it is. -/
theorem idle_modify {f : State → State} (hf : ∀ s, websockets (f s) = websockets s) :
    Keeps (orderly cfg t) Idle (modify f : Hub Unit) := by
  refine Keeps.modify fun s P hidle => ⟨?_, ?_, hidle.noRestart⟩
  · exact single_congr hidle.single (hf s)
  · exact allEnded_congr hidle.ended (congrArg Prod.fst (hf s))

/-- A request or a call of the `auth_function` inside a restart. -/
theorem idle_perform {op : Op} (hrestart : isRestart (.blocked t op) = true)
    (hat : ∀ s, RestartAt s (.blocked t op) = AllEnded s) :
    Keeps (orderly cfg t) Idle (perform op) := by
  refine Keeps.perform ?_ ?_
  · intro s P hidle
    exact hidle.single.cons (by rw [hat]; exact hidle.ended)
  · intro s P r hsingle hres
    have hended := hsingle.head
    rw [hat] at hended
    exact ⟨hsingle.tail, hended, hres.1.1 hrestart⟩

theorem single_createApp {s : State} {P : Multiset (Label Op Activity)}
    {h : List (Logged State Exc Op Op.Result)} (hidle : Idle s P) :
    WebsocketTransport.createApp.wp (orderly cfg t) (fun _ s P _ => Single s P) s P h := by
  unfold WebsocketTransport.createApp record
  simp only [wp_bind, wp_get, wp_modify, wp_fork]
  refine ⟨⟨?_, ?_⟩, ?_⟩
  · -- the new websocket is the stored one, and every older one has ended
    intro app a ha halive
    simp only at ha
    rcases Nat.lt_trichotomy app s.apps.length with happ | rfl | happ
    · rw [List.getElem?_append_left happ] at ha
      simp [allEnded_iff.mp hidle.ended app a ha] at halive
    · exact ⟨rfl, rfl⟩
    · rw [List.getElem?_eq_none (by simp; omega)] at ha
      cases ha
  · intro c hc
    rcases List.mem_append.mp hc with hc | hc
    · exact hidle.single.base.created c hc
    · simp only [List.mem_singleton] at hc
      subst hc
      have hended := hidle.ended
      simpa [WebsocketTransport.unfinished, List.countP_eq_zero, AllEnded] using hended
  · intro l hl
    rcases Multiset.mem_cons.mp hl with rfl | hl
    · trivial
    · exact restartAt_of_not (hidle.noRestart l hl)

/-- `Connection.start` inside a restart creates at most one websocket. -/
theorem single_start {s : State} {P : Multiset (Label Op Activity)}
    {h : List (Logged State Exc Op Op.Result)} (hidle : Idle s P) :
    (Connection.start cfg).wp (orderly cfg t) (fun _ s P _ => Single s P) s P h := by
  have hrefresh : Keeps (orderly cfg t) Idle (Connection.refreshTokenMaybe cfg .start) :=
    Connection.keeps_refreshTokenMaybe (idle_perform rfl fun _ => rfl)
      fun _ => idle_modify fun _ => rfl
  have hnegotiate : Keeps (orderly cfg t) Idle (WebsocketTransport.negotiate cfg) :=
    WebsocketTransport.keeps_negotiate (fun _ _ => idle_perform rfl fun _ => rfl)
      fun _ _ => idle_modify fun _ => rfl
  have hstate : Keeps (orderly cfg t) Idle (WebsocketTransport.setState .connecting) :=
    Keeps.bind (idle_modify fun _ => rfl) fun _ =>
      Keeps.when fun _ => idle_modify fun _ => rfl
  unfold Connection.start WebsocketTransport.start
  simp only [wp_bind]
  refine wp_mono ?_ (hrefresh s P h hidle)
  rintro (e | _) s P h hidle
  · exact hidle.single
  refine wp_mono ?_ (Keeps.when (fun _ => hnegotiate) s P h hidle)
  rintro (e | _) s P h hidle
  · exact hidle.single
  simp only [wp_get, wp_when, wp_bind]
  split_ifs
  · refine wp_mono ?_ (hstate s P h hidle)
    rintro (e | _) s P h hidle
    · exact hidle.single
    · exact single_createApp hidle
  · exact hidle.single

/-- `kill` returns when every greenlet has ended. -/
theorem single_killGreenlet {s : State} {P : Multiset (Label Op Activity)}
    {h : List (Logged State Exc Op Op.Result)} (hsingle : Single s P) :
    WebsocketTransport.killGreenlet.wp (orderly cfg t)
      (fun r s P _ => match r with | .ok _ => Idle s P | .error _ => Single s P) s P h := by
  unfold WebsocketTransport.killGreenlet
  simp only [wp_bind, wp_get]
  cases hgreenlet : s.greenlet with
  | none => exact hsingle
  | some app =>
      have hsame : Single { s with
          history := { s.history with interventions := WebsocketTransport.intervene s } } P :=
        single_congr hsingle rfl
      have hkilled : Keeps (orderly cfg t) Single
          (setApp app fun a => { a with killed := true }) :=
        single_offSocket.setApp fun _ => rfl
      have hsingle' := hkilled _ P h hsame
      unfold WebsocketTransport.killApp record
      simp only [Option.elim_some, wp_bind, wp_get, setApp, wp_modify] at hsingle' ⊢
      rw [wp_perform]
      refine ⟨hsingle'.cons hgreenlet, ?_⟩
      intro s' P' r hsingle' hres
      cases r with
      | error e => exact hsingle'.tail
      | ok _ =>
          have hhead : s'.greenlet = some app := hsingle'.head
          refine ⟨hsingle'.tail, allEnded_iff.mpr ?_, hres.1.1 rfl⟩
          intro other a ha
          by_contra halive
          obtain ⟨-, hstored⟩ := hsingle'.base.stored other a ha (by simpa using halive)
          rw [hhead, Option.some.injEq] at hstored
          subst hstored
          exact halive (hres.1.2 app rfl a ha)

theorem single_reconnect : Keeps (orderly cfg t) Single (WebsocketTransport.reconnect cfg) := by
  intro s P h hsingle
  unfold WebsocketTransport.reconnect
  simp only [wp_bind]
  refine wp_mono ?_ (single_offSocket.stopLost s P h hsingle)
  rintro (e | _) s P h hsingle
  · exact hsingle
  refine wp_mono ?_ (single_killGreenlet hsingle)
  rintro (e | _) s P h hkill
  · exact hkill
  have hset : Keeps (orderly cfg t) Idle (WebsocketTransport.setHandshakeReceived false) :=
    idle_modify fun _ => rfl
  have hrestart : Keeps (orderly cfg t) Idle
      (record fun h => { h with restarts := h.restarts ++ [h.accepted.length] }) :=
    idle_modify fun _ => rfl
  refine wp_mono ?_ (hset s P h hkill)
  rintro (e | _) s P h hidle
  · exact hidle.single
  refine wp_mono ?_ (hrestart s P h hidle)
  rintro (e | _) s P h hidle
  · exact hidle.single
  · exact single_start hidle

/-! ## Methods -/

theorem single_send (message : Outgoing) :
    Keeps (orderly cfg t) Single (WebsocketTransport.send cfg message) :=
  single_offSocket.send single_reconnect fun _ => single_perform rfl

theorem single_dispatch : Connection.KeepsDispatch (orderly cfg t) Single where
  calls := ⟨fun _ => single_modify fun _ => rfl, fun _ _ => single_perform rfl⟩
  dispatched := fun _ => single_modify fun _ => rfl
  unregister := fun _ => single_modify fun _ => rfl
  event := fun _ _ => single_perform rfl
  error := fun _ => single_perform rfl

theorem single_runForever (app : Nat) :
    Keeps (orderly cfg t) Single (WebSocketApp.runForever cfg app) := by
  have hoff : OffSocket (orderly cfg t) Single := single_offSocket
  have hreceive : ∀ raw, Keeps (orderly cfg t) Single (WebsocketTransport.receive cfg app raw) :=
    fun raw => hoff.receive (fun _ => single_modify fun _ => rfl) fun f hf =>
      single_modify fun s => by
        simpa [websockets, OffSocket.offHandshake] using congrArg (·.creations) (hf s.history)
  have hsilent : Keeps (orderly cfg t) Single (setApp app fun a => { a with silent := true }) :=
    single_modify fun s => by simp [websockets, map_modify]
  refine hoff.runForever (hoff.round single_send (fun _ _ _ h _ => h.tail)
    (fun _ _ h => h.cons trivial) ?_ hsilent) hsilent single_setEnded
  intro raw s P h hsingle _
  exact WebSocketApp.keeps_handleMessage (hoff.callback
    (WebsocketTransport.keeps_onMessage (hreceive raw) fun _ =>
      Connection.keeps_onMessage (fun _ => Connection.keeps_dispatch single_dispatch)
        (hoff.stop _))) s P h hsingle.tail

theorem single_activities : KeepsActivities (orderly cfg t) Single cfg where
  send := single_send
  auth := single_perform rfl
  sleep := fun _ => single_perform rfl
  acquire := fun _ => single_perform rfl
  register := fun _ =>
    Connection.keeps_register (single_modify fun _ => rfl) (single_modify fun _ => rfl)
  modify := fun hf => single_modify fun s => (congrArg websockets (hf s) :)

/-- Every activity but `start()` keeps the invariant from wherever it starts. -/
theorem single_body (t : Activity) (ht : t ≠ .start) :
    Keeps (orderly cfg t) Single (Hub.body cfg t) := by
  by_cases hstop : t = .stop
  · subst hstop
    exact keeps_once (Keeps.finally_ (single_offSocket.stop _) (single_modify fun _ => rfl))
  · exact single_activities.body ht hstop fun app _ => single_runForever app

/-- A `start()` of the user. -/
theorem single_userStart {s : State} {P : Multiset (Label Op Activity)}
    {h : List (Logged State Exc Op Op.Result)} (hsingle : Single s P)
    (hstart : (Orderly cfg).start s P .start) :
    (Hub.body cfg .start).wp (orderly cfg t) (fun _ s P _ => Single s P) s P h := by
  have hrecord : Keeps (orderly cfg t) Idle (record fun h => { h with stopped := false }) :=
    idle_modify fun _ => rfl
  change (Hub.once _).wp (orderly cfg t) _ s P h
  unfold Hub.once
  rcases hstart rfl with ⟨hauth, hskip, hconnected⟩ | ⟨hended, hno⟩
  · have hsame : Single { s with history := { s.history with stopped := false } } P :=
      single_congr hsingle rfl
    simpa [record, Connection.start, Connection.refreshTokenMaybe, WebsocketTransport.start,
      hauth, hskip, hconnected] using hsame
  · have hidle : ∀ s P, Idle s P → Single s P := fun _ _ h => h.single
    exact Leads.bind_keeps (Leads.bind hidle hrecord fun _ s P h hidle => single_start hidle)
      (fun _ => .pure _) s P h ⟨hsingle, hended, hno⟩

/-- The invariant holds along every orderly run. -/
theorem single_proof : Proof (hub cfg) (Orderly cfg) Single fun _ _ _ _ => True := by
  refine Hub.proof ⟨fun _ _ _ h => single_congr h rfl, fun _ _ _ _ h => h,
    fun _ _ _ _ _ _ h => h⟩ ?_ (fun _ _ _ hsingle _ _ => hsingle.cons trivial) ?_
  · exact ⟨⟨by intro app a ha; simp [State.new] at ha, by simp [State.new, History.new]⟩, by simp⟩
  · intro s P t hsingle hstart
    have hready : ∀ s P, Single s P → Single s (.ready t ::ₘ P) := fun _ _ h => h.cons trivial
    by_cases ht : t = .start
    · subst ht
      exact ends_of_wp hready (single_userStart hsingle.tail hstart)
    · exact ends_of_wp hready (single_body t ht s P [] hsingle.tail)

/-- A predicate that holds at one position at most. -/
theorem countP_le_one {α : Type} {p : α → Bool} {xs : List α}
    (h : ∀ (i j : Nat) (a b : α), xs[i]? = some a → xs[j]? = some b → p a = true → p b = true →
      i = j) : xs.countP p ≤ 1 := by
  induction xs with
  | nil => simp
  | cons x xs ih =>
      rw [List.countP_cons]
      split_ifs with hx
      · have hnone : xs.countP p = 0 := by
          rw [List.countP_eq_zero]
          intro y hy hpy
          obtain ⟨i, hi⟩ := List.getElem?_of_mem hy
          exact absurd (h 0 (i + 1) x y (by simp) (by simpa using hi) hx hpy) (by omega)
        omega
      · refine ih fun i j a b ha hb hpa hpb => ?_
        have hij := h (i + 1) (j + 1) a b (by simpa using ha) (by simpa using hb) hpa hpb
        omega

/-- In every orderly run at most one `run_forever` greenlet is unfinished at a time,
it is the stored one and belongs to the stored websocket, and every websocket was
created when all older greenlets had ended. -/
theorem orderly_single {w : World State Exc Op Op.Result Activity}
    (h : (hub cfg).Reach (Orderly cfg) w) :
    WebsocketTransport.unfinished w.shared.apps ≤ 1 ∧
      (∀ (app : Nat) (a : App), w.shared.apps[app]? = some a → a.ended = false →
        w.shared.greenlet = some app ∧ w.shared.ws = some app) ∧
      ∀ c ∈ w.shared.history.creations, c.unfinished = 0 := by
  have hs : SingleState w.shared := (single_proof.sound h).holds.base
  refine ⟨countP_le_one ?_, fun app a ha halive => (hs.stored app a ha halive).symm, hs.created⟩
  intro i j a b ha hb halive halive'
  obtain ⟨hi, -⟩ := hs.stored i a ha (by simpa using halive)
  obtain ⟨hj, -⟩ := hs.stored j b hb (by simpa using halive')
  exact Option.some.inj (hi.symm.trans hj)

/-- Without the condition: a second `start()` before the first one is connected leaves
two greenlets, of which only the second one is stored. -/
theorem two_starts :
    ∃ w, (hub (.direct none)).Reach .any w ∧ WebsocketTransport.unfinished w.shared.apps = 2 ∧
      w.shared.greenlet = some 1 :=
  ⟨_, (hub (.direct none)).reach_after [.fork .start, .start 0, .fork .start, .start 2]
    .start rfl, rfl, rfl⟩

/-- A connection that was closed by the server and started again. -/
theorem orderly_single_restart :
    ∃ w, (hub (.direct none)).Reach (Orderly (.direct none)) w ∧ w.shared.apps.length = 2 ∧
      WebsocketTransport.unfinished w.shared.apps ≤ 1 ∧
      (∀ (app : Nat) (a : App), w.shared.apps[app]? = some a → a.ended = false →
        w.shared.greenlet = some app ∧ w.shared.ws = some app) ∧
      ∀ c ∈ w.shared.history.creations, c.unfinished = 0 := by
  have h := (hub (.direct none)).reach_within (Orderly (.direct none)) [.fork .start, .start 0,
    .start 1, .answer 1 (.happened .opened), .answer 1 .done, .start 1,
    .answer 1 (.happened .closed), .fork .start, .start 2] .start rfl
  exact ⟨_, h, rfl, orderly_single h⟩

end GeventSignalR
