import GeventSignalR.Coop.Alone
import GeventSignalR.Hub.Restart
import Mathlib.Data.Multiset.Count

/-!
# Attempts to reconnect

The reconnection handler counts the attempts whose `start()` raises.  An attempt whose
websocket fails later is not counted, and the handshake request of each websocket that opens
sets the counter back.

* `Counted` are the steps in which the counter is right: no websocket of
  `handle_reconnect` is replaced before its handshake is accepted.
* `Counts` is the invariant that relates the counter to the number of attempts.
-/

namespace GeventSignalR

open Coop Coop.Prog

/-- The number a reconnection handler counts up to. -/
def ReconnectionPolicy.limit : ReconnectionPolicy → Option Nat
  | .raw _ maxAttempts => maxAttempts.map Int.toNat
  | .interval intervals => some intervals.length

/-- The counter of the reconnection handler. -/
def attempts (s : State) : Nat :=
  s.reconnectionHandler.elim 0 (·.attemptNumber)

/-- The user calls `start()` for the first websocket only. -/
def StartedOnce : Cond State Exc Op Op.Result Activity where
  fork := fun _ _ _ => True
  start := fun s _ t => t.isStart = true → s.apps = []
  resume := fun s _ t _ _ => t.isStart = true → s.apps = []

instance : System.Decides StartedOnce where
  fork := fun _ _ _ => isTrue trivial
  start := fun s _ _ => inferInstanceAs (Decidable (_ → s.apps = []))
  resume := fun s _ _ _ _ => inferInstanceAs (Decidable (_ → s.apps = []))

/-- The thread is inside a `start()` of `handle_reconnect`. -/
def isRestarting : Label Op Activity → Bool
  | .blocked t (.auth .start) => !t.isStart
  | .blocked t (.post ..) => !t.isStart
  | _ => false

/-- The operations of `start()`. -/
def isStartStep : Op → Bool
  | .auth .start | .post .. => true
  | _ => false

/-- `kill` has returned. -/
def isKillDone : (op : Op) → Except Exc op.Result → Bool
  | .kill _, .ok _ => true
  | _, _ => false

/-- Every attempt is counted:

* `handle_reconnect` goes on behind `kill` only if the stored websocket is not one of its own
  whose handshake was not accepted, the handler has not given up, and no other attempt is
  at work;
* its `start()` does not find the state `connected`, and fails with an `Exception` if it
  fails;
* no write succeeds on a settled websocket while an attempt is counted. -/
def Counted (cfg : Config) : Cond State Exc Op Op.Result Activity where
  fork := fun _ _ _ => True
  start := fun _ _ _ => True
  resume := fun s P t op r =>
    t.isStart = false →
      (isKillDone op r = true → s.history.exhausted = false ∧ isSettled s = true ∧
        ∀ l ∈ P, isRestarting l = false) ∧
      (Hub.isLastStep cfg op = true → r.isOk = true → s.state ≠ .connected) ∧
      (isStartStep op = true → ∀ e ∈ restartError cfg s op r, e.isException = true) ∧
      (isWritten op r = true → isSettled s = true → s.history.exhausted = false → attempts s = 0)

instance (cfg : Config) : System.Decides (Counted cfg) where
  fork := fun _ _ _ => isTrue trivial
  start := fun _ _ _ => isTrue trivial
  resume := fun _ _ _ _ _ => inferInstanceAs (Decidable (_ → _ ∧ _))

/-- The number of attempts that are at work. -/
def atWork (P : Multiset (Label Op Activity)) : Nat :=
  P.countP fun l => isRestarting l = true

/-- The number of attempts since the last accepted handshake. -/
def sinceAccepted (s : State) : Nat :=
  s.history.restarts.count s.history.accepted.length

/-- The thread waits for `kill`. -/
def isKilling : Label Op Activity → Bool
  | .blocked _ (.kill _) => true
  | _ => false

/-- Between two accepted handshakes there are at most two attempts more than the handler
counts up to, because each one is counted, or at work. -/
structure Counts (policy : ReconnectionPolicy) (n : Nat) (s : State)
    (P : Multiset (Label Op Activity)) : Prop where
  policy : s.reconnectionHandler.map (·.policy) = some policy
  bounded : ∀ k, s.history.restarts.count k ≤ n + 2
  past : ∀ k ∈ s.history.restarts, k ≤ s.history.accepted.length
  counted : isSettled s = true → s.history.exhausted = false →
    sinceAccepted s ≤ attempts s + atWork P ∧ (sinceAccepted s ≤ atWork P ∨ attempts s ≤ n + 1)
  single : atWork P ≤ 1
  accepted : ∀ app ∈ s.history.accepted, app < s.apps.length
  greenlet : s.greenlet ≠ none → s.apps ≠ []
  killing : ∀ l ∈ P, isKilling l = true → s.apps ≠ []
  fresh : s.apps = [] → s.history.restarts = []
  own : ∀ l ∈ P, ∀ app, l.thread = .runForever app → app < s.apps.length

variable {cfg : Config} {policy : ReconnectionPolicy} {n : Nat} {t : Activity} {s s' : State}
  {P : Multiset (Label Op Activity)} {l l' : Label Op Activity}

/-- What the proof assumes. -/
abbrev counting (cfg : Config) (policy : ReconnectionPolicy) (n : Nat) (t : Activity) : HubRely :=
  Hub.running cfg (StartedOnce.and (Counted cfg)) (Counts policy n) t

/-- The invariant of a thread that runs. -/
abbrev CountInv (policy : ReconnectionPolicy) (n : Nat) (t : Activity) : HubInv :=
  fun s P => Counts policy n s (.ready t ::ₘ P) ∧ s.history.current = t

/-- The invariant inside a `start()` of `handle_reconnect`. -/
abbrev Attempting (policy : ReconnectionPolicy) (n : Nat) (t : Activity) : HubInv :=
  fun s P => Counts policy n s (.blocked t (.auth .start) ::ₘ P) ∧ s.history.current = t

/-! ## Leaves -/

theorem atWork_cons : atWork (l ::ₘ P) = atWork P + if isRestarting l then 1 else 0 := by
  simp [atWork, Multiset.countP_cons]

theorem atWork_eq_zero (h : ∀ l ∈ P, isRestarting l = false) : atWork P = 0 := by
  refine Multiset.countP_eq_zero.mpr fun l hl hrestarting => ?_
  rw [h l hl] at hrestarting
  cases hrestarting

/-- `next` counts as long as it returns, and it returns up to the limit. -/
theorem ReconnectionHandler.next_counts (handler : ReconnectionHandler)
    (hlimit : handler.policy.limit = some n) :
    handler.next.1.policy = handler.policy ∧ (handler.next.2.isOk = true →
      handler.next.1.attemptNumber = handler.attemptNumber + 1 ∧ handler.attemptNumber ≤ n) := by
  unfold next
  unfold ReconnectionPolicy.limit at hlimit
  cases hkind : handler.policy with
  | raw sleepTime maxAttempts =>
      rw [hkind] at hlimit
      cases maxAttempts with
      | none => cases hlimit
      | some maxAttempts =>
          have hn : maxAttempts.toNat = n := Option.some.inj hlimit
          dsimp only
          split_ifs with hle
          · exact ⟨rfl, fun _ => ⟨rfl, by omega⟩⟩
          · exact ⟨rfl, fun hok => by cases hok⟩
  | interval intervals =>
      rw [hkind] at hlimit
      have hn : intervals.length = n := Option.some.inj hlimit
      dsimp only
      cases hget : intervals[handler.attemptNumber]? with
      | none => exact ⟨rfl, fun hok => by cases hok⟩
      | some sleepTime =>
          obtain ⟨hlt, -⟩ := List.getElem?_eq_some_iff.mp hget
          exact ⟨rfl, fun _ => ⟨rfl, by omega⟩⟩

namespace Counts

/-- What the invariant reads of the state. -/
def view (s : State) : (Option ReconnectionPolicy × Nat) × (List Nat × List Nat × Bool) ×
    (Option Nat × Option Nat) × List Bool :=
  ((s.reconnectionHandler.map (·.policy), attempts s),
    (s.history.restarts, s.history.accepted, s.history.exhausted), (s.ws, s.greenlet),
    s.apps.map (·.restarted))

theorem congr (h : Counts policy n s P) (hs : view s' = view s) : Counts policy n s' P := by
  simp only [view, Prod.mk.injEq] at hs
  obtain ⟨⟨hpolicy, hattempts⟩, ⟨hrestarts, haccepted, hexhausted⟩, ⟨hws, hgreenlet⟩, happs⟩ := hs
  have hlength : s'.apps.length = s.apps.length := by
    simpa using congrArg List.length happs
  have hempty : s'.apps = [] ↔ s.apps = [] := by
    rw [← List.length_eq_zero_iff, hlength, List.length_eq_zero_iff]
  have hsettled : isSettled s' = isSettled s := isSettled_congr hws happs haccepted
  have hsince : sinceAccepted s' = sinceAccepted s := by
    unfold sinceAccepted
    rw [hrestarts, haccepted]
  constructor
  · rw [hpolicy]
    exact h.policy
  · rw [hrestarts]
    exact h.bounded
  · rw [hrestarts, haccepted]
    exact h.past
  · rw [hsettled, hexhausted, hsince, hattempts]
    exact h.counted
  · exact h.single
  · rw [haccepted, hlength]
    exact h.accepted
  · rw [hgreenlet, ne_eq, ne_eq, hempty]
    exact h.greenlet
  · intro l hl hkilling hnone
    exact h.killing l hl hkilling (hempty.mp hnone)
  · rw [hempty, hrestarts]
    exact h.fresh
  · rw [hlength]
    exact h.own

/-- The thread at a position goes on, inside or outside of an attempt as before. -/
theorem relabel (h : Counts policy n s (l ::ₘ P)) (hl : l'.thread = l.thread)
    (hrestarting : isRestarting l' = isRestarting l)
    (hkilling : isKilling l' = true → s.apps ≠ []) : Counts policy n s (l' ::ₘ P) := by
  have hatWork : atWork (l' ::ₘ P) = atWork (l ::ₘ P) := by
    rw [atWork_cons, atWork_cons, hrestarting]
  refine { h with
    counted := by rw [hatWork]; exact h.counted
    single := by rw [hatWork]; exact h.single
    killing := fun m hm => ?_
    own := fun m hm => ?_ }
  · rcases Multiset.mem_cons.mp hm with rfl | hm
    · exact hkilling
    · exact h.killing m (Multiset.mem_cons_of_mem hm)
  · rcases Multiset.mem_cons.mp hm with rfl | hm
    · rw [hl]
      exact h.own l (Multiset.mem_cons_self l P)
    · exact h.own m (Multiset.mem_cons_of_mem hm)

/-- Another thread that is ready. -/
theorem cons (h : Counts policy n s P) (hown : ∀ app, t = .runForever app → app < s.apps.length) :
    Counts policy n s (.ready t ::ₘ P) := by
  have hatWork : atWork (.ready t ::ₘ P) = atWork P := by rw [atWork_cons]; rfl
  refine { h with
    counted := by rw [hatWork]; exact h.counted
    single := by rw [hatWork]; exact h.single
    killing := fun m hm => ?_
    own := fun m hm => ?_ }
  · rcases Multiset.mem_cons.mp hm with rfl | hm
    · exact fun hkilling => by cases hkilling
    · exact h.killing m hm
  · rcases Multiset.mem_cons.mp hm with rfl | hm
    · exact hown
    · exact h.own m hm

/-- A thread is gone. -/
theorem tail (h : Counts policy n s (.ready t ::ₘ P)) : Counts policy n s P := by
  have hatWork : atWork (.ready t ::ₘ P) = atWork P := by rw [atWork_cons]; rfl
  exact { h with
    counted := by rw [← hatWork]; exact h.counted
    single := by rw [← hatWork]; exact h.single
    killing := fun m hm => h.killing m (Multiset.mem_cons_of_mem hm)
    own := fun m hm => h.own m (Multiset.mem_cons_of_mem hm) }

/-- `next` counts the attempt that has failed, or the handler has given up. -/
theorem next (h : Counts policy n s (l ::ₘ P)) (hl : l.thread = t)
    (hlimit : policy.limit = some n) {handler : ReconnectionHandler}
    (hhandler : s.reconnectionHandler = some handler)
    (hs' : s' = { s with
      reconnectionHandler := some handler.next.1
      history := { s.history with exhausted := s.history.exhausted || !handler.next.2.isOk } }) :
    Counts policy n s' (.ready t ::ₘ P) := by
  have hpolicy : handler.policy = policy := by
    have hmap := h.policy
    rw [hhandler] at hmap
    exact Option.some.inj hmap
  have hattempts : attempts s = handler.attemptNumber := by simp [attempts, hhandler]
  have hnext := handler.next_counts (hpolicy ▸ hlimit)
  have hone : atWork (.ready t ::ₘ P) ≤ atWork (l ::ₘ P) ∧
      atWork (l ::ₘ P) ≤ atWork (.ready t ::ₘ P) + 1 := by
    rw [atWork_cons, atWork_cons]
    constructor
    · exact Nat.add_le_add_left (Nat.zero_le _) _
    · split_ifs <;> omega
  -- `next` adds one to the attempts, which pays for the one that is at work no longer
  subst hs'
  constructor
  · exact congrArg some (hnext.1.trans hpolicy)
  · exact h.bounded
  · exact h.past
  · intro hsettled hexhausted
    rw [Bool.or_eq_false_iff, Bool.not_eq_false'] at hexhausted
    obtain ⟨hcounted, -⟩ := h.counted hsettled hexhausted.1
    obtain ⟨hsucc, hle⟩ := hnext.2 hexhausted.2
    have hattempts' : attempts { s with
        reconnectionHandler := some handler.next.1
        history := { s.history with exhausted := s.history.exhausted || !handler.next.2.isOk } } =
          handler.attemptNumber + 1 := hsucc
    rw [hattempts']
    rw [hattempts] at hcounted
    refine ⟨?_, .inr (by omega)⟩
    have hsince : sinceAccepted s ≤ handler.attemptNumber + 1 + atWork (.ready t ::ₘ P) := by
      omega
    exact hsince
  · exact hone.1.trans h.single
  · exact h.accepted
  · exact h.greenlet
  · intro m hm
    rcases Multiset.mem_cons.mp hm with rfl | hm
    · exact fun hkilling => by cases hkilling
    · exact h.killing m (Multiset.mem_cons_of_mem hm)
  · exact h.fresh
  · intro m hm
    rcases Multiset.mem_cons.mp hm with rfl | hm
    · rw [show (Label.ready t : Label Op Activity).thread = l.thread from hl.symm]
      exact h.own l (Multiset.mem_cons_self l P)
    · exact h.own m (Multiset.mem_cons_of_mem hm)

/-- An attempt is at work once `kill` has returned. -/
theorem restart {op : Op} (h : Counts policy n s (.blocked t op ::ₘ P))
    (hkilling : isKilling (.blocked t op) = true) (ht : t.isStart = false)
    (hexhausted : s.history.exhausted = false) (hsettled : isSettled s = true)
    (hidle : ∀ l ∈ P, isRestarting l = false) :
    Counts policy n (WebsocketTransport.restarting s) (.blocked t (.auth .start) ::ₘ P) := by
  have hop : isRestarting (.blocked t op : Label Op Activity) = false := by
    cases op with
    | kill app => rfl
    | _ => cases hkilling
  have hzero : atWork P = 0 := atWork_eq_zero hidle
  have hbefore : atWork (.blocked t op ::ₘ P) = 0 := by rw [atWork_cons, hop, hzero]; rfl
  have hafter : atWork (.blocked t (.auth .start) ::ₘ P) = 1 := by
    rw [atWork_cons, hzero]
    simp [isRestarting, ht]
  -- the restart is counted and is at work, so both sides of the bound grow by one
  obtain ⟨hcounted, hlimit⟩ := h.counted hsettled hexhausted
  rw [hbefore] at hcounted hlimit
  have happs : s.apps ≠ [] := h.killing _ (Multiset.mem_cons_self _ P) hkilling
  have hsince : sinceAccepted (WebsocketTransport.restarting s) = sinceAccepted s + 1 := by
    simp [sinceAccepted]
  constructor
  · exact h.policy
  · intro k
    show (s.history.restarts ++ [s.history.accepted.length]).count k ≤ n + 2
    have hbounded := h.bounded k
    rw [List.count_append, List.count_singleton]
    split_ifs with hk
    · have hk' : s.history.accepted.length = k := by simpa using hk
      subst hk'
      unfold sinceAccepted at hcounted hlimit
      omega
    · exact hbounded
  · intro k hk
    rcases List.mem_append.mp hk with hk | hk
    · exact h.past k hk
    · exact le_of_eq (List.mem_singleton.mp hk)
  · intro _ _
    rw [hsince, hafter]
    have hsame : attempts (WebsocketTransport.restarting s) = attempts s := rfl
    rw [hsame]
    omega
  · exact le_of_eq hafter
  · exact h.accepted
  · exact h.greenlet
  · exact fun _ _ _ => happs
  · exact fun hnone => absurd hnone happs
  · intro m hm
    rcases Multiset.mem_cons.mp hm with rfl | hm
    · exact h.own (.blocked t op) (Multiset.mem_cons_self _ P)
    · exact h.own m (Multiset.mem_cons_of_mem hm)

/-- Behind an attempt that has created a websocket, none is at work.  That websocket is not
settled; the one of the user is the first. -/
theorem create (h : Counts policy n s (l ::ₘ P)) (hl : l.thread = t)
    (hfresh : t.isStart = true → s.apps = []) {app : App} (happ : app.restarted = !t.isStart)
    (hs' : s' = { s with
      apps := s.apps ++ [app]
      ws := some s.apps.length
      greenlet := some s.apps.length }) :
    Counts policy n s' (.ready t ::ₘ P) := by
  have hone : atWork (.ready t ::ₘ P) ≤ atWork (l ::ₘ P) := by
    rw [atWork_cons, atWork_cons]
    exact Nat.add_le_add_left (Nat.zero_le _) _
  have hnew : s.apps.length ∉ s.history.accepted := fun hmem =>
    lt_irrefl _ (h.accepted _ hmem)
  -- the new websocket is settled exactly if the `start()` of the user has created it
  have hsettled : isSettled s' = t.isStart := by
    subst hs'
    simp [isSettled, happ, hnew]
  have hlonger : s.apps.length < s'.apps.length := by
    subst hs'
    simp
  subst hs'
  constructor
  · exact h.policy
  · exact h.bounded
  · exact h.past
  · intro hsettled' _
    rw [hsettled] at hsettled'
    have hnone : sinceAccepted s = 0 := by
      rw [sinceAccepted, h.fresh (hfresh hsettled')]
      rfl
    have hle : sinceAccepted s ≤ atWork (.ready t ::ₘ P) := by omega
    exact ⟨le_trans hle (Nat.le_add_left _ _), .inl hle⟩
  · exact hone.trans h.single
  · exact fun app' happ' => (h.accepted app' happ').trans hlonger
  · exact fun _ => by simp
  · exact fun _ _ _ => by simp
  · exact fun hnone => by simp at hnone
  · intro m hm app' happ'
    refine lt_trans ?_ hlonger
    rcases Multiset.mem_cons.mp hm with rfl | hm
    · exact h.own l (Multiset.mem_cons_self l P) app' (hl.trans happ')
    · exact h.own m (Multiset.mem_cons_of_mem hm) app' happ'

end Counts

theorem counting_modify {f : State → State} (hf : ∀ s, Counts.view (f s) = Counts.view s)
    (hcurrent : ∀ s, (f s).history.current = s.history.current) :
    Keeps (counting cfg policy n t) (CountInv policy n t) (modify f : Hub Unit) :=
  Keeps.modify fun s _ h => ⟨h.1.congr (hf s), (hcurrent s).trans h.2⟩

theorem counting_setApp {app : Nat} {f : App → App} (hf : ∀ a, (f a).restarted = a.restarted) :
    Keeps (counting cfg policy n t) (CountInv policy n t) (setApp app f) :=
  counting_modify (fun s => by
    simp only [Counts.view, map_modify hf]
    rfl) fun _ => rfl

/-- An operation other than those of an attempt. -/
theorem counting_perform {op : Op} (hrestarting : isRestarting (.blocked t op) = false)
    (hkilling : isKilling (.blocked t op) = false) :
    Keeps (counting cfg policy n t) (CountInv policy n t) (perform op) := by
  refine Keeps.perform (fun s P h => ?_) fun s P r h hres => ⟨?_, hres.1⟩
  · exact h.1.relabel rfl hrestarting fun hkill => by
      rw [hkilling] at hkill
      cases hkill
  · exact h.relabel rfl hrestarting.symm fun hkill => by cases hkill

theorem counting_fork {t' : Activity} (ht : ∀ app, t' ≠ .runForever app) :
    Keeps (counting cfg policy n t) (CountInv policy n t) (fork t' : Hub Unit) := by
  refine Keeps.fork fun s P h => ⟨?_, h.2⟩
  rw [Multiset.cons_swap]
  exact h.1.cons fun app happ => absurd happ (ht app)

theorem counting_setState (value : ConnectionState) :
    Keeps (counting cfg policy n t) (CountInv policy n t) (WebsocketTransport.setState value) :=
  Keeps.bind (counting_modify (fun _ => rfl) fun _ => rfl) fun _ =>
    Keeps.when fun _ => counting_modify (fun _ => rfl) fun _ => rfl

/-- The end of a `start()`, which creates a websocket. -/
theorem counting_finish {h : List (Logged State Exc Op Op.Result)} (hl : l.thread = t)
    (hcounts : Counts policy n s (l ::ₘ P)) (hcurrent : s.history.current = t)
    (hfresh : t.isStart = true → s.apps = []) :
    (do WebsocketTransport.setState .connecting; WebsocketTransport.createApp : Hub Unit).wp
      (counting cfg policy n t) (fun r s P _ => r = .ok () ∧ CountInv policy n t s P) s P h := by
  rw [WebsocketTransport.setState_connecting, wp_bind, wp_modify]
  refine ⟨rfl, ?_, hcurrent⟩
  have happ : (WebsocketTransport.newApp s.url s.oldHeaders.length (!t.isStart)).restarted = !t.isStart := rfl
  have hcreated := hcounts.create hl hfresh happ rfl
  have hforked := hcreated.cons (t := .runForever s.apps.length) fun app happ => by
    cases happ
    simp
  rw [Multiset.cons_swap] at hforked
  refine hforked.congr ?_
  simp [Counts.view, attempts, hcurrent]

namespace WebsocketTransport

/-! ## Restarts -/

theorem counting_stop (site : StopSite) :
    Keeps (counting cfg policy n t) (CountInv policy n t) (stop site) :=
  keeps_stop (counting_modify (fun _ => rfl) fun _ => rfl)
    (keeps_closeWs (fun _ => counting_setApp fun _ => rfl)
      (fun _ => counting_perform rfl rfl) fun _ => counting_setApp fun _ => rfl)
    (counting_setState _) (counting_modify (fun _ => rfl) fun _ => rfl)

/-- What is left by the `start()` of an attempt. -/
def AttemptEnds (policy : ReconnectionPolicy) (n : Nat) (t : Activity) :
    Post State Exc Op Op.Result Activity Unit := fun r s P _ =>
  match r with
  | .ok _ => CountInv policy n t s P
  | .error e => e.isException = true ∧ Attempting policy n t s P

theorem attempting_start (ht : t.isStart = false) {h : List (Logged State Exc Op Op.Result)}
    (hI : Attempting policy n t s P)
    (hready : cfg.auth = false → cfg.skipNegotiation = true → s.state ≠ .connected) :
    (Connection.start cfg).wp (counting cfg policy n t) (AttemptEnds policy n t) s P h := by
  -- an attempt is at work while its `start()` waits for a token or for a response
  have hworks : ∀ {op}, isStartStep op = true →
      isRestarting (.blocked t op : Label Op Activity) = true := by
    intro op hop
    unfold isStartStep at hop
    split at hop
    · simp [isRestarting, ht]
    · simp [isRestarting, ht]
    · cases hop
  have hblock : ∀ {op s P}, isStartStep op = true → Attempting policy n t s P →
      Counts policy n s (.blocked t op ::ₘ P) := by
    intro op s P hop h
    refine h.1.relabel rfl ((hworks hop).trans (hworks rfl).symm) fun hkill => ?_
    cases op with
    | kill app => cases hop
    | _ => cases hkill
  have hresume : ∀ {op s P r}, isStartStep op = true → Counts policy n s (.blocked t op ::ₘ P) →
      (counting cfg policy n t).resume s P op r → Attempting policy n t s P := by
    intro op s P r hop h hres
    exact ⟨h.relabel rfl ((hworks rfl).trans (hworks hop).symm) fun hkill => (by cases hkill),
      hres.1⟩
  have rule : StartRule (counting cfg policy n t) (Attempting policy n t)
      (fun s _ => s.state ≠ .connected) (AttemptEnds policy n t) cfg :=
    { headers := fun s P url headers oldHeaders h => ⟨h.1.congr rfl, h.2⟩
      ready := fun _ _ _ _ _ h => h
      auth_block := fun s P h => hblock rfl h
      auth := by
        intro s P h r hcounts hres
        have hI := hresume rfl hcounts hres
        obtain ⟨-, ⟨-, hcond⟩, -⟩ := hres
        -- it ends here only by an exception that the caller of `start()` handles
        obtain ⟨-, hlast, hraise, -⟩ := hcond ht
        rcases r with e | token
        · exact ⟨hraise rfl e rfl, hI⟩
        · exact ⟨hI, fun hskip => hlast hskip rfl⟩
      post_block := fun s P url headers h => hblock rfl h
      post := by
        intro s P h url headers r hcounts hres
        have hI := hresume rfl hcounts hres
        obtain ⟨-, ⟨-, hcond⟩, -⟩ := hres
        obtain ⟨-, hlast, hraise, -⟩ := hcond ht
        rcases r with e | response
        · exact ⟨hraise rfl e rfl, hI⟩
        · dsimp only
          split
          · exact ⟨hI, hlast rfl rfl⟩
          · rename_i e hresult
            refine ⟨hraise rfl e ?_, hI⟩
            simp only [restartError, hresult]
            rfl
      finish := by
        intro s P h hI hconnected
        unfold finishStart
        rw [wp_bind, wp_get]
        simp only [hconnected, decide_true, wp_when, if_true, ne_eq, not_false_eq_true]
        refine wp_mono ?_ (counting_finish rfl hI.1 hI.2 fun hstart => ?_)
        · rintro r s P h ⟨rfl, hI⟩
          exact hI
        · rw [ht] at hstart
          cases hstart }
  exact wp_start rule hI hready

theorem counting_reconnect (ht : t.isStart = false) {h : List (Logged State Exc Op Op.Result)}
    (hI : CountInv policy n t s P) :
    (reconnect cfg).wp (counting cfg policy n t) (fun r s P _ =>
      match r with
      | .ok _ => CountInv policy n t s P
      | .error e => CountInv policy n t s P ∨ e.isException = true ∧ Attempting policy n t s P)
      s P h := by
  have hstop : Keeps (counting cfg policy n t) (CountInv policy n t) stopLost :=
    keeps_stopLost (counting_stop _) (counting_setState _)
  have hkilled : ∀ app, Keeps (counting cfg policy n t) (CountInv policy n t) (killApp app) :=
    fun app => keeps_killApp (fun _ => counting_modify (fun _ => rfl) fun _ => rfl)
      (counting_setApp fun _ => rfl)
  refine wp_reconnect (fun s P h hI => ?_) (fun _ _ _ hI _ => .inl hI) hkilled
    (fun s P app hI hgreenlet => ?_) (fun s P h app r hcounts hres => ?_) hI
  · refine wp_mono ?_ (hstop s P h hI)
    rintro (e | _) s P h hI
    · exact .inl hI
    · exact hI
  · exact hI.1.relabel rfl rfl fun _ => hI.1.greenlet hgreenlet
  · obtain ⟨hcurrent, ⟨-, hcond⟩, -⟩ := hres
    obtain ⟨hdone, hlast, -, -⟩ := hcond ht
    rcases r with e | _
    · exact .inl ⟨hcounts.relabel rfl rfl fun hkill => (by cases hkill), hcurrent⟩
    · obtain ⟨hexhausted, hsettled, hidle⟩ := hdone rfl
      have hattempt : Attempting policy n t (restarting s) P :=
        ⟨hcounts.restart rfl ht hexhausted hsettled hidle, hcurrent⟩
      refine wp_mono ?_ (attempting_start ht hattempt fun hauth hskip => ?_)
      · rintro (e | _) s P h hends
        · exact .inr hends
        · exact hends
      · exact hlast (by simp [Hub.isLastStep, hauth, hskip]) rfl

theorem counting_deferReconnect (hlimit : policy.limit = some n) {e : Exc}
    {h : List (Logged State Exc Op Op.Result)}
    (hI : CountInv policy n t s P ∨ e.isException = true ∧ Attempting policy n t s P) :
    (deferReconnect e).wp (counting cfg policy n t) (fun _ s P _ => CountInv policy n t s P)
      s P h := by
  have hcounts : ∃ l, l.thread = t ∧ Counts policy n s (l ::ₘ P) ∧ s.history.current = t := by
    rcases hI with hI | ⟨-, hI⟩
    · exact ⟨_, rfl, hI⟩
    · exact ⟨_, rfl, hI⟩
  obtain ⟨l, hl, hcounts, hcurrent⟩ := hcounts
  refine wp_deferReconnect (fun he => ?_) (fun _ hnone => ?_) fun handler _ hhandler s' hs' => ?_
  · rcases hI with hI | ⟨hexception, -⟩
    · exact hI
    · rw [he] at hexception
      cases hexception
  · have hpolicy := hcounts.policy
    rw [hnone] at hpolicy
    cases hpolicy
  · have hnext : CountInv policy n t s' P := by
      refine ⟨hcounts.next hl hlimit hhandler hs', ?_⟩
      rw [hs']
      exact hcurrent
    split
    · rename_i sleepTime hsleep
      have hforked : Keeps (counting cfg policy n t) (CountInv policy n t)
          (fork (.deferredReconnect sleepTime) : Hub Unit) :=
        counting_fork fun app happ => by cases happ
      exact hforked s' P h hnext
    · exact hnext

/-- An assignment of `reconnecting`. -/
theorem counting_setReconnecting (value : Bool) :
    Keeps (counting cfg policy n t) (CountInv policy n t) (setReconnecting value) := by
  refine Keeps.bind keeps_reconnectionHandler fun _ => counting_modify (fun s => ?_) fun _ => rfl
  cases hhandler : s.reconnectionHandler with
  | none => simp [Counts.view, attempts, hhandler]
  | some handler => simp [Counts.view, attempts, hhandler]

theorem counting_call (callback : Callback) :
    Keeps (counting cfg policy n t) (CountInv policy n t) (call callback) :=
  counting_perform rfl rfl

theorem counting_handleReconnect (hlimit : policy.limit = some n) (ht : t.isStart = false) :
    Keeps (counting cfg policy n t) (CountInv policy n t) (handleReconnect cfg) := by
  intro s P h hI
  refine wp_announce (fun _ => hI) fun handler _ => ?_
  have hannounce : Keeps (counting cfg policy n t) (CountInv policy n t) (announce handler s) :=
    Keeps.bind (Keeps.when fun _ => keeps_reportReconnect
      (counting_modify (fun _ => rfl) fun _ => rfl) (counting_call _)) fun _ =>
        counting_setReconnecting true
  refine wp_mono ?_ (hannounce s P h hI)
  rintro (e | _) s P h hI
  · exact hI
  · dsimp only
    rw [wp_tryCatch]
    refine wp_mono ?_ (counting_reconnect ht hI)
    rintro (e | _) s P h hI
    · exact counting_deferReconnect hlimit hI
    · exact hI

/-- A successful write sets the counter back. -/
theorem counting_send (hlimit : policy.limit = some n) (ht : t.isStart = false)
    (message : Outgoing) :
    Keeps (counting cfg policy n t) (CountInv policy n t) (send cfg message) := by
  have hready : ∀ {s P app}, Counts policy n s (.blocked t (.wsSend app message) ::ₘ P) →
      Counts policy n s (.ready t ::ₘ P) :=
    fun h => h.relabel rfl rfl fun hkill => by cases hkill
  have hfailing : ∀ {s P app e}, CountInv policy n t s P → CountInv policy n t (failing app e s) P := by
    intro s P app e hI
    have hset : Keeps (counting cfg policy n t) (CountInv policy n t)
        (setApp app fun a => { a with lost := a.lost || e.isConnectionLost }) :=
      counting_setApp fun _ => rfl
    exact hset s P [] hI
  have rule : SendRule (counting cfg policy n t) (CountInv policy n t) (CountInv policy n t)
      (fun _ _ _ => True) cfg message :=
    { unstored := fun _ _ _ _ => trivial
      encode := fun _ _ _ _ _ => trivial
      block := by
        intro s P app hI _
        have hhanding : Counts policy n (handing app message s) (.ready t ::ₘ P) := hI.1.congr rfl
        exact hhanding.relabel rfl rfl fun hkill => by cases hkill
      written := by
        rintro s P app hcounts ⟨hcurrent, ⟨-, hcond⟩, -⟩
        obtain ⟨-, -, -, hwritten⟩ := hcond ht
        have hI := hready hcounts
        refine ⟨{ hI with
          policy := ?_
          counted := fun hsettled hexhausted => ?_ }, hcurrent⟩
        · show (s.reconnectionHandler.map (·.reset)).map (·.policy) = some policy
          rw [Option.map_map]
          exact hI.policy
        · have hcounted := hI.counted hsettled hexhausted
          -- `reset` forgets no attempt: a settled connection has made none
          have hreset : attempts (succeeding s) = attempts s := by
            rw [hwritten rfl hsettled hexhausted]
            unfold attempts
            cases hhandler : s.reconnectionHandler <;> simp [ReconnectionHandler.reset, hhandler]
          rw [hreset]
          exact hcounted
      lost := fun s P app e hcounts hres _ => hfailing ⟨hready hcounts, hres.1⟩
      failed := fun s P app e hcounts hres _ => ⟨hfailing ⟨hready hcounts, hres.1⟩, trivial⟩ }
  refine Throws.keeps (throws_send rule fun e s P h hI => ?_)
  have hlost : Keeps (counting cfg policy n t) (CountInv policy n t) (connectionLost cfg e) :=
    keeps_connectionLost (counting_modify (fun _ => rfl) fun _ => rfl) (counting_setState _)
      (counting_call _) (counting_handleReconnect hlimit ht)
  exact wp_mono (fun _ _ _ _ hI => ⟨hI, fun _ _ => trivial⟩) (hlost s P h hI)

/-! ## Messages -/

theorem counting_reportEnd (site : CloseSite) :
    Keeps (counting cfg policy n t) (CountInv policy n t) (reportEnd site) :=
  keeps_reportEnd (counting_modify (fun _ => rfl) fun _ => rfl) (counting_setState _)

theorem counting_onSocketError (site : CloseSite) :
    Keeps (counting cfg policy n t) (CountInv policy n t) (onSocketError site) :=
  keeps_onSocketError (counting_reportEnd _) (counting_call _)

/-- Behind an accepted handshake no attempts are counted. -/
theorem counting_acceptHandshake {app : Nat} :
    Keeps (counting cfg policy n (.runForever app)) (CountInv policy n (.runForever app))
      (acceptHandshake app) := by
  have hhandler : Keeps (counting cfg policy n (.runForever app)) (CountInv policy n (.runForever app))
      (setHandler fun handler => { handler with reconnecting := false }) := by
    refine counting_modify (fun s => ?_) fun _ => rfl
    cases hhandler : s.reconnectionHandler with
    | none => simp [Counts.view, attempts, hhandler]
    | some handler => simp [Counts.view, attempts, hhandler]
  have hdone : Keeps (counting cfg policy n (.runForever app)) (CountInv policy n (.runForever app))
      handshakeDone :=
    Keeps.bind .get fun _ => Keeps.when fun _ => Keeps.bind hhandler fun _ => Keeps.when fun _ =>
      Keeps.bind (counting_modify (fun _ => rfl) fun _ => rfl) fun _ =>
        counting_fork fun app happ => by cases happ
  have hrecord : ∀ s : State, Keeps (counting cfg policy n (.runForever app))
      (CountInv policy n (.runForever app)) (record fun h => { h with
        accepted := h.accepted ++ [app]
        acceptedOpen := if s.onOpen then h.acceptedOpen + 1 else h.acceptedOpen
        established := true
        exhausted := false }) := by
    rintro s₀
    refine Keeps.modify fun s P hI => ⟨{ hI.1 with
      past := fun k hk => ?_
      counted := fun _ _ => ?_
      accepted := fun app' happ' => ?_ }, hI.2⟩
    · rw [List.length_append]
      exact Nat.le_add_right_of_le (hI.1.past k hk)
    -- no restart belongs to a handshake that was not accepted before
    · have hnone : s.history.restarts.count (s.history.accepted ++ [app]).length = 0 := by
        refine List.count_eq_zero.mpr fun hmem => ?_
        have hle := hI.1.past _ hmem
        rw [List.length_append, List.length_singleton] at hle
        omega
      rw [sinceAccepted, hnone]
      exact ⟨Nat.zero_le _, .inl (Nat.zero_le _)⟩
    · rcases List.mem_append.mp happ' with happ' | happ'
      · exact hI.1.accepted app' happ'
      · rw [List.mem_singleton.mp happ']
        exact hI.1.own _ (Multiset.mem_cons_self _ P) app rfl
  exact Keeps.bind (counting_modify (fun _ => rfl) fun _ => rfl) fun _ =>
    Keeps.bind (counting_setState _) fun _ => Keeps.bind .get fun _ =>
      Keeps.bind (hrecord _) fun _ => hdone

theorem counting_receive {app : Nat} {raw : Raw} :
    Keeps (counting cfg policy n (.runForever app)) (CountInv policy n (.runForever app))
      (receive cfg app raw) := by
  intro s P h hI
  have hplain : ∀ received, CountInv policy n (.runForever app)
      { s with history := { s.history with received } } P :=
    fun _ => ⟨hI.1.congr rfl, hI.2⟩
  have hreject : Keeps (counting cfg policy n (.runForever app)) (CountInv policy n (.runForever app))
      rejectHandshake :=
    keeps_rejectHandshake (counting_modify (fun _ => rfl) fun _ => rfl)
      (counting_onSocketError _) (counting_stop _) (counting_setState _)
  exact wp_receive rfl (hplain _)
    (fun _ response _ => keeps_judge counting_acceptHandshake hreject _ P h (hplain _))
    (keeps_reportOpen (counting_setState _) (counting_modify (fun _ => rfl) fun _ => rfl)
      (counting_call _))

theorem counting_messages (messages : List Message) :
    Keeps (counting cfg policy n t) (CountInv policy n t) (Connection.onMessage messages) := by
  have hdispatch : Connection.KeepsDispatch (counting cfg policy n t) (CountInv policy n t) :=
    { calls := ⟨fun _ => counting_modify (fun _ => rfl) fun _ => rfl, fun _ _ => counting_call _⟩
      dispatched := fun _ => counting_modify (fun _ => rfl) fun _ => rfl
      unregister := fun _ => counting_modify (fun _ => rfl) fun _ => rfl
      event := fun _ _ => counting_call _
      error := fun _ => counting_call _ }
  exact Connection.keeps_onMessage (fun _ => Connection.keeps_dispatch hdispatch) (counting_stop _)

/-- A `start()` of the user. -/
theorem counting_start {h : List (Logged State Exc Op Op.Result)}
    (hI : CountInv policy n .start s P) (hfirst : s.apps = []) :
    (Connection.start cfg).wp (counting cfg policy n .start)
      (fun _ s P _ => CountInv policy n .start s P) s P h := by
  -- the `start()` of the user is no attempt
  have hplain : ∀ {op}, isStartStep op = true →
      isRestarting (.blocked .start op) = false ∧ isKilling (.blocked .start op) = false := by
    intro op hop
    unfold isStartStep at hop
    split at hop
    · exact ⟨rfl, rfl⟩
    · exact ⟨rfl, rfl⟩
    · cases hop
  have hblock : ∀ {op s P}, isStartStep op = true → CountInv policy n .start s P →
      Counts policy n s (.blocked .start op ::ₘ P) := by
    intro op s P hop h
    refine h.1.relabel rfl (hplain hop).1 fun hkill => ?_
    rw [(hplain hop).2] at hkill
    cases hkill
  have hready : ∀ {op s P r}, isStartStep op = true → Counts policy n s (.blocked .start op ::ₘ P) →
      (counting cfg policy n .start).resume s P op r → CountInv policy n .start s P := by
    intro op s P r hop h hres
    exact ⟨h.relabel rfl (hplain hop).1.symm fun hkill => (by cases hkill), hres.1⟩
  have rule : StartRule (counting cfg policy n .start) (CountInv policy n .start)
      (fun s _ => s.apps = []) (fun _ s P _ => CountInv policy n .start s P) cfg :=
    { headers := fun s P url headers oldHeaders h => ⟨h.1.congr rfl, h.2⟩
      ready := fun _ _ _ _ _ h => h
      auth_block := fun s P h => hblock rfl h
      auth := by
        intro s P h r hcounts hres
        have hI := hready rfl hcounts hres
        rcases r with e | token
        · exact hI
        · exact ⟨hI, fun _ => hres.2.1.1 rfl⟩
      post_block := fun s P url headers h => hblock rfl h
      post := by
        intro s P h url headers r hcounts hres
        have hI := hready rfl hcounts hres
        rcases r with e | response
        · exact hI
        · dsimp only
          split
          · exact ⟨hI, hres.2.1.1 rfl⟩
          · exact hI
      finish := by
        intro s P h hI hfirst
        unfold finishStart
        rw [wp_bind, wp_get]
        dsimp only
        rw [wp_when]
        split_ifs
        · refine wp_mono ?_ (counting_finish rfl hI.1 hI.2 fun _ => hfirst)
          rintro r s P h ⟨rfl, hI⟩
          exact hI
        · exact hI }
  exact wp_start rule hI fun _ _ => hfirst

end WebsocketTransport

/-! ## Runs -/

theorem counting_runForever (hlimit : policy.limit = some n) (app : Nat) :
    Keeps (counting cfg policy n (.runForever app)) (CountInv policy n (.runForever app))
      (WebSocketApp.runForever cfg app) := by
  have hset : ∀ f : App → App, (∀ a, (f a).restarted = a.restarted) →
      Keeps (counting cfg policy n (.runForever app)) (CountInv policy n (.runForever app))
        (setApp app f) :=
    fun f hf => counting_setApp hf
  have hcallback : ∀ {isOver p}, Keeps (counting cfg policy n (.runForever app))
      (CountInv policy n (.runForever app)) p → Keeps (counting cfg policy n (.runForever app))
        (CountInv policy n (.runForever app)) (WebSocketApp.callback app isOver p) :=
    fun hp => WebSocketApp.keeps_callback hp (WebsocketTransport.counting_onSocketError _)
  have hready : ∀ s P r, Counts policy n s (.blocked (.runForever app) (.event app) ::ₘ P) →
      (counting cfg policy n (.runForever app)).resume s P (.event app) r →
        CountInv policy n (.runForever app) s P :=
    fun s P r h hres => ⟨h.relabel rfl rfl fun hkill => (by cases hkill), hres.1⟩
  have hround : WebSocketApp.KeepsRound (counting cfg policy n (.runForever app))
      (CountInv policy n (.runForever app)) cfg app :=
    { block := fun _ _ h => h.1.relabel rfl rfl fun hkill => by cases hkill
      resume := hready
      opened := fun s P h hcounts hres => WebSocketApp.keeps_handleOpened (hset _ fun _ => rfl)
        (hcallback (WebsocketTransport.counting_send hlimit rfl _)) s P h (hready s P _ hcounts hres)
      message := fun raw s P h hcounts hres => WebSocketApp.leads_handleMessage
        WebsocketTransport.counting_receive WebsocketTransport.counting_messages
        (WebsocketTransport.counting_onSocketError _) s P h (hready s P _ hcounts hres)
      silent := hset _ fun _ => rfl
      error := hcallback (WebsocketTransport.counting_onSocketError _) }
  exact WebSocketApp.keeps_runForever (hset _ fun _ => rfl) (hset _ fun _ => rfl)
    (WebSocketApp.keeps_round hround)
    (WebSocketApp.keeps_teardown (hset _ fun _ => rfl) (hcallback (WebsocketTransport.keeps_onClosed
      (WebsocketTransport.counting_reportEnd _) (WebsocketTransport.counting_call _)))
      (hset _ fun _ => rfl))

theorem counting_methods (hlimit : policy.limit = some n) (ht : t.isStart = false) :
    KeepsMethods (counting cfg policy n t) (CountInv policy n t) cfg where
  send := fun message _ => WebsocketTransport.counting_send hlimit ht message
  auth := counting_perform rfl rfl
  sleep := fun _ => counting_perform rfl rfl
  acquire := fun _ => counting_perform rfl rfl
  register := fun _ => Connection.keeps_register (counting_modify (fun _ => rfl) fun _ => rfl)
    (counting_modify (fun _ => rfl) fun _ => rfl)
  modify := by
    intro f hf hhandler
    refine counting_modify (fun s => ?_) fun s => (congrArg (·.history.current) (hf s) :)
    have hview := congrArg Counts.view (hf s)
    simp only [Counts.view, offActivities, Prod.mk.injEq] at hview
    simp only [Counts.view, attempts, hhandler, Prod.mk.injEq]
    exact ⟨trivial, hview.2⟩

theorem counting_body (hlimit : policy.limit = some n) (t : Activity)
    {h : List (Logged State Exc Op Op.Result)} (hI : CountInv policy n t s P)
    (hstart : StartedOnce.start s P t) :
    (Hub.body cfg t).wp (counting cfg policy n t) (fun _ s P _ => CountInv policy n t s P) s P h := by
  by_cases hstart' : t = .start
  · subst hstart'
    show (Hub.once _).wp _ _ s P h
    unfold Hub.once record
    rw [wp_bind, wp_bind, wp_modify]
    refine wp_mono ?_ (WebsocketTransport.counting_start ⟨hI.1.congr rfl, hI.2⟩ (hstart rfl))
    rintro (e | _) s P h hI <;> exact hI
  by_cases hstop : t = .stop
  · subst hstop
    have hstopped : Keeps (counting cfg policy n .stop) (CountInv policy n .stop)
        (record fun h => { h with stopped := true }) :=
      counting_modify (fun _ => rfl) fun _ => rfl
    exact keeps_once (Keeps.finally_ (WebsocketTransport.counting_stop _) hstopped) s P h hI
  · have hisStart : t.isStart = false := by
      cases t with
      | start => exact absurd rfl hstart'
      | _ => rfl
    have hmethods : KeepsMethods (counting cfg policy n t) (CountInv policy n t) cfg :=
      counting_methods hlimit hisStart
    refine hmethods.body hstart' hstop (fun app happ => ?_) (fun _ => ?_) (fun sleepTime ht => ?_)
      s P h hI
    · subst happ
      exact counting_runForever hlimit app
    · exact ConnectionStateChecker.keeps_run (hmethods.sleep _)
        (WebsocketTransport.counting_send hlimit hisStart _)
    · exact Keeps.tryCatch (Keeps.bind (hmethods.sleep _) fun _ => Keeps.bind .get fun _ =>
        Keeps.when fun _ => WebsocketTransport.counting_send hlimit hisStart _) fun _ =>
          Keeps.ite (fun _ =>
          Keeps.bind (WebsocketTransport.counting_setReconnecting _) fun _ =>
            counting_modify (fun _ => rfl) fun _ => rfl) fun _ => .raise _

theorem counting_proof (hpolicy : cfg.reconnection = some policy) (hlimit : policy.limit = some n) :
    Proof (hub cfg) (StartedOnce.and (Counted cfg)) (Counts policy n) fun _ _ _ _ => True := by
  refine Hub.proof_running ⟨fun _ _ _ h => h.congr rfl, fun _ _ _ _ h => h,
    fun _ _ _ _ _ _ h => h⟩ ?_ ?_ fun s P t hcounts hstart hcurrent => ?_
  · constructor
    · simp [State.new, hpolicy, ReconnectionHandler.new]
    all_goals simp [State.new, History.new, sinceAccepted, atWork]
  · intro s P t hcounts harrives _
    exact hcounts.cons fun app happ => absurd happ (Hub.ne_runForever_of_arrives harrives app)
  · exact ends_of_ready (fun _ _ h => h.tail)
      (wp_mono (fun _ _ _ _ hI => hI.1) (counting_body hlimit t ⟨hcounts, hcurrent⟩ hstart.1))

/-- Where the user starts the connection once, and every attempt is counted: between two
accepted handshakes, and behind the last one, `handle_reconnect` calls `start()` at most
two times more often than its handler counts. -/
theorem counted_restarts {w : World State Exc Op Op.Result Activity}
    (h : (hub cfg).Reach (StartedOnce.and (Counted cfg)) w)
    (hpolicy : cfg.reconnection = some policy) (hlimit : policy.limit = some n) (k : Nat) :
    w.shared.history.restarts.count k ≤ n + 2 :=
  ((counting_proof hpolicy hlimit).sound h).holds.bounded k

/-- A connection that reconnects, behind `k` attempts since its only accepted handshake. -/
structure Flapping (k : Nat) (s : State) : Prop where
  headers : s.headers = []
  onReconnect : s.onReconnect = false
  handler : ∃ policy attemptNumber, s.reconnectionHandler = some ⟨policy, true, attemptNumber⟩
  ws : ∃ app, s.ws = some app ∧ s.greenlet = some app
  accepted : s.history.accepted.length = 1
  restarts : k ≤ s.history.restarts.count 1

/-- A user's write finds the new websocket not connected yet, and the next one is created:
its `start()` returns, so the attempt is not counted. -/
theorem Flapping.stream {k : Nat} {s : State} (h : Flapping k s) :
    ∃ s', ((hub (.direct (some (.raw 5 (some 0))))).body (.stream "Count" (.list []) "1")).solo
        ((hub (.direct (some (.raw 5 (some 0))))).decode · (.stream "Count" (.list []) "1")) s
        [.raised .connectionClosed, .done] = some s' ∧ Flapping (k + 1) s' := by
  obtain ⟨headers, onReconnect, ⟨policy, attemptNumber, hhandler⟩, ⟨app, hws, hgreenlet⟩,
    haccepted, hrestarts⟩ := h
  obtain ⟨_, _, _, _, _, _, _, _, _, _, _, _, _, _, _, _, _, _, _, _, _, history⟩ := s
  dsimp only at *
  subst headers onReconnect hhandler hws hgreenlet
  refine ⟨_, rfl, rfl, rfl, ⟨_, _, rfl⟩, ⟨_, rfl, rfl⟩, haccepted, ?_⟩
  show k + 1 ≤ (history.restarts ++ [history.accepted.length]).count 1
  rw [haccepted, List.count_append, List.count_singleton_self]
  exact Nat.add_le_add_right hrestarts 1

/-- Otherwise no bound holds, not even for a handler that counts up to zero: behind one
accepted handshake, the websocket is replaced as often as something is written before it is
connected. -/
theorem unbounded_restarts :
    ¬ ∃ bound, ∀ w, (hub (.direct (some (.raw 5 (some 0))))).Reach StartedOnce w →
      w.shared.history.restarts.count 1 ≤ bound := by
  have hall : ∀ k, ∃ w, (hub (.direct (some (.raw 5 (some 0))))).Reach StartedOnce w ∧
      Flapping (k + 1) w.shared := by
    intro k
    induction k with
    | zero =>
        have h := (hub (.direct (some (.raw 5 (some 0))))).reach_within StartedOnce
          [.fork .start, .start 0, .start 1, .answer 1 (.happened .opened), .answer 1 .done,
          .start 1, .answer 1 (.happened (.message (.text "\x7b\x7d\x1e"))),
          .fork (.stream "Count" (.list []) "1"), .start 3, .answer 3 (.raised .connectionClosed),
          .answer 3 .done] .start rfl
        exact ⟨_, h, rfl, rfl, ⟨_, _, rfl⟩, ⟨_, rfl, rfl⟩, rfl, le_refl 1⟩
    | succ k ih =>
        obtain ⟨w, h, hflapping⟩ := ih
        obtain ⟨s', hsolo, hnext⟩ := hflapping.stream
        obtain ⟨w', h', rfl⟩ := System.reach_solo ⟨fun _ _ => trivial,
          fun _ _ hstart => (by cases hstart), fun _ _ _ _ hstart => (by cases hstart)⟩ rfl h hsolo
        exact ⟨w', h', hnext⟩
  rintro ⟨bound, hbound⟩
  obtain ⟨w, h, hflapping⟩ := hall bound
  have hle := hflapping.restarts.trans (hbound w h)
  omega

/-- A connection with an `auth_function`. -/
def Config.authorized (reconnection : Option ReconnectionPolicy) : Config :=
  { Config.direct reconnection with auth := true }

/-- The `auth_function` raises twice, and the handler gives up. -/
theorem counted_restarts_exhausted :
    ∃ w, (hub (.authorized (some (.raw 5 (some 0))))).Reach
        (StartedOnce.and (Counted (.authorized (some (.raw 5 (some 0)))))) w ∧
      w.shared.history.exhausted = true ∧ w.shared.history.restarts = [1, 1] ∧
      w.shared.history.restarts.count 1 ≤ 0 + 2 := by
  have h := (hub (.authorized (some (.raw 5 (some 0))))).reach_within
    (StartedOnce.and (Counted (.authorized (some (.raw 5 (some 0))))))
    [.fork .start, .start 0, .answer 0 (.token none), .start 1, .answer 1 (.happened .opened),
    .answer 1 .done, .start 1, .answer 1 (.happened (.message (.text "\x7b\x7d\x1e"))),
    .fork (.stream "Count" (.list []) "1"), .start 3, .answer 3 (.raised .connectionClosed),
    .answer 3 .done, .answer 3 (.raised .typeError), .start 4, .answer 4 .done,
    .answer 4 (.raised .connectionClosed), .answer 4 .done, .answer 4 (.raised .typeError)] .start rfl
  exact ⟨_, h, rfl, rfl, counted_restarts h rfl rfl 1⟩

end GeventSignalR
