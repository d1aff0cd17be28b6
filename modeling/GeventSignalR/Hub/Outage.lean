import GeventSignalR.Hub.Restart

/-!
# Outages

`reconnecting` is what keeps `on_reconnect` from being called again before the connection is
back.  It is set behind the callback, and cleared by every successful write, the handshake
request of the next websocket included, and by a deferred reconnect that gives up.

* `Alternating` are the steps in which that does no harm.
* `Alternates` is the invariant: between two calls of `on_reconnect` lies an accepted
  handshake.
-/

namespace GeventSignalR

open Coop Coop.Prog

/-- The flag of the reconnection handler. -/
def isReconnecting (s : State) : Bool :=
  s.reconnectionHandler.any (·.reconnecting)

/-- The thread waits for the `on_reconnect` callback. -/
def isReporting : Label Op Activity → Bool
  | .blocked _ (.callback .onReconnect) => true
  | _ => false

/-- The thread is a deferred reconnect. -/
def isDeferred : Activity → Bool
  | .deferredReconnect _ => true
  | _ => false

/-- The `on_reconnect` callback has raised. -/
def reportFails : (op : Op) → Except Exc op.Result → Bool
  | .callback .onReconnect, .error _ => true
  | _, _ => false

/-- A call of `start()` that goes on to create a websocket finds the flag set, or the stored
websocket settled. -/
def StartsSettled (s : State) : Prop :=
  s.state ≠ .connected → (isReconnecting s || isSettled s) = true

instance (s : State) : Decidable (StartsSettled s) :=
  inferInstanceAs (Decidable (_ → _))

/-- The flag is only cleared where the connection is back, or cannot be lost again before:

* a websocket that `handle_reconnect` created is not lost before its handshake is accepted,
  unless the flag is set, and no websocket is lost while `on_reconnect` is called;
* while the flag is set, no write succeeds but on such a websocket;
* `on_reconnect` does not raise;
* a deferred reconnect gives up only once such a websocket exists;
* `start()` replaces no such websocket, unless the flag is set. -/
def Alternating (cfg : Config) : Cond State Exc Op Op.Result Activity where
  fork := fun _ _ _ => True
  start := fun s _ t => t.isStart = true → cfg.auth = false → cfg.skipNegotiation = true →
    StartsSettled s
  resume := fun s P t op r =>
    (t.isStart = true → Hub.isLastStep cfg op = true → r.isOk = true → StartsSettled s) ∧
      (Hub.isLost op r = true → isReconnecting s = false → s.onReconnect = true →
        isSettled s = true ∧ ∀ l ∈ P, isReporting l = false) ∧
      (isWritten op r = true → isReconnecting s = true → isSettled s = false) ∧
      reportFails op r = false ∧
      (isDeferred t = true → ∀ e ∈ restartError cfg s op r, e.isException = true →
        (hasNext s || !isSettled s) = true)

instance (cfg : Config) : System.Decides (Alternating cfg) where
  fork := fun _ _ _ => isTrue trivial
  start := fun _ _ _ => inferInstanceAs (Decidable (_ → _))
  resume := fun _ _ _ _ _ => inferInstanceAs (Decidable (_ ∧ _))

/-- `on_reconnect` was called, and no handshake was accepted since. -/
def Outage (s : State) : Prop :=
  ∃ k ∈ s.history.reconnects, k.accepted = s.history.accepted.length

/-- Between the two calls a handshake was accepted, and `on_open` was called for every
handshake that was accepted while it was registered. -/
def Reconnection.Before (k k' : Reconnection) : Prop :=
  k.accepted < k'.accepted ∧ k'.acceptedOpen + k.opens ≤ k.acceptedOpen + k'.opens

/-- So far no `on_open` callback of an accepted handshake is missing since the call. -/
def Reconnection.Opened (k : Reconnection) (s : State) : Prop :=
  k.accepted ≤ s.history.accepted.length ∧
    s.history.acceptedOpen + k.opens ≤ k.acceptedOpen + s.history.opens

/-- The thread waits for a write. -/
def isWriting : Label Op Activity → Bool
  | .blocked _ (.wsSend ..) => true
  | _ => false

/-- Between two calls of `on_reconnect` a handshake was accepted, and during an outage there
is a reason why the next lost websocket will not lead to another call. -/
structure Alternates (cfg : Config) (s : State) (P : Multiset (Label Op Activity)) : Prop where
  configured : s.reconnectionHandler.isSome = cfg.reconnection.isSome
  increasing : s.history.reconnects.Pairwise Reconnection.Before
  opened : ∀ k ∈ s.history.reconnects, k.Opened s
  outage : Outage s →
    isReconnecting s = true ∨ (∃ l ∈ P, isReporting l = true) ∨ isSettled s = false
  accepted : ∀ app ∈ s.history.accepted, app < s.apps.length
  greenlet : s.ws ≠ none → s.greenlet ≠ none
  reported : s.history.reconnects ≠ [] → s.ws ≠ none ∧ s.reconnectionHandler.isSome = true
  own : ∀ l ∈ P, ∀ app, l.thread = .runForever app → app < s.apps.length
  sending : ∀ l ∈ P, isWriting l = true → s.ws ≠ none

variable {cfg : Config} {t : Activity} {s s' : State} {P : Multiset (Label Op Activity)}
  {l l' : Label Op Activity}

/-- What the proof assumes. -/
abbrev alternating (cfg : Config) (t : Activity) : HubRely :=
  Hub.running cfg (Alternating cfg) (Alternates cfg) t

/-- The invariant of a thread that runs. -/
abbrev AltInv (cfg : Config) (t : Activity) : HubInv :=
  fun s P => Alternates cfg s (.ready t ::ₘ P) ∧ s.history.current = t

/-- What a deferred reconnect that gives up may rely on. -/
abbrev GivesUp (t : Activity) : Exc → HubInv :=
  fun e s P => isDeferred t = true → e.isException = true → Outage s →
    (∃ l ∈ P, isReporting l = true) ∨ isSettled s = false

/-- The same where it has another attempt. -/
abbrev GivesUpOrNot (t : Activity) : Exc → HubInv :=
  fun e s P => isDeferred t = true → e.isException = true → Outage s →
    hasNext s = true ∨ (∃ l ∈ P, isReporting l = true) ∨ isSettled s = false

/-! ## Leaves -/

namespace Alternates

/-- What the invariant reads of the state. -/
def view (s : State) : (Bool × Bool) × (List Reconnection × List Nat × Nat × Nat) ×
    (Option Nat × Option Nat) × List Bool :=
  ((s.reconnectionHandler.isSome, isReconnecting s),
    (s.history.reconnects, s.history.accepted, s.history.acceptedOpen, s.history.opens),
    (s.ws, s.greenlet), s.apps.map (·.restarted))

theorem congr (h : Alternates cfg s P) (hs : view s' = view s) : Alternates cfg s' P := by
  simp only [view, Prod.mk.injEq] at hs
  obtain ⟨⟨hhandler, hreconnecting⟩, ⟨hreconnects, haccepted, hopens⟩, ⟨hws, hgreenlet⟩, happs⟩ :=
    hs
  have hlength : s'.apps.length = s.apps.length := by
    simpa using congrArg List.length happs
  have hsettled : isSettled s' = isSettled s := isSettled_congr hws happs haccepted
  constructor
  · rw [hhandler]
    exact h.configured
  · rw [hreconnects]
    exact h.increasing
  · unfold Reconnection.Opened
    rw [hreconnects, haccepted, hopens.1, hopens.2]
    exact h.opened
  · unfold Outage
    rw [hreconnects, haccepted, hreconnecting, hsettled]
    exact h.outage
  · rw [haccepted, hlength]
    exact h.accepted
  · rw [hws, hgreenlet]
    exact h.greenlet
  · rw [hreconnects, hws, hhandler]
    exact h.reported
  · rw [hlength]
    exact h.own
  · rw [hws]
    exact h.sending

/-- The thread at a position goes on, and if it has waited for `on_reconnect`, the flag is
set. -/
theorem relabel (h : Alternates cfg s (l ::ₘ P)) (hl : l'.thread = l.thread)
    (hreporting : isReporting l = true → isReconnecting s = true) (hsending : isWriting l' = true → s.ws ≠ none) :
    Alternates cfg s (l' ::ₘ P) := by
  refine { h with outage := fun hout => ?_, own := fun m hm => ?_, sending := fun m hm => ?_ }
  · rcases h.outage hout with hreconnecting | ⟨m, hm, hm'⟩ | hsettled
    · exact .inl hreconnecting
    · rcases Multiset.mem_cons.mp hm with rfl | hm
      · exact .inl (hreporting hm')
      · exact .inr (.inl ⟨m, Multiset.mem_cons_of_mem hm, hm'⟩)
    · exact .inr (.inr hsettled)
  · rcases Multiset.mem_cons.mp hm with rfl | hm
    · rw [hl]
      exact h.own l (Multiset.mem_cons_self l P)
    · exact h.own m (Multiset.mem_cons_of_mem hm)
  · rcases Multiset.mem_cons.mp hm with rfl | hm
    · exact hsending
    · exact h.sending m (Multiset.mem_cons_of_mem hm)

/-- Another thread that is ready. -/
theorem cons (h : Alternates cfg s P) (hown : ∀ app, t = .runForever app → app < s.apps.length) :
    Alternates cfg s (.ready t ::ₘ P) := by
  refine { h with outage := fun hout => ?_, own := fun m hm => ?_, sending := fun m hm => ?_ }
  · rcases h.outage hout with hreconnecting | ⟨m, hm, hm'⟩ | hsettled
    · exact .inl hreconnecting
    · exact .inr (.inl ⟨m, Multiset.mem_cons_of_mem hm, hm'⟩)
    · exact .inr (.inr hsettled)
  · rcases Multiset.mem_cons.mp hm with rfl | hm
    · exact hown
    · exact h.own m hm
  · rcases Multiset.mem_cons.mp hm with rfl | hm
    · exact fun hsending => by cases hsending
    · exact h.sending m hm

/-- A thread is gone. -/
theorem tail (h : Alternates cfg s (.ready t ::ₘ P)) : Alternates cfg s P := by
  refine { h with outage := fun hout => ?_, own := fun m hm => ?_, sending := fun m hm => ?_ }
  · rcases h.outage hout with hreconnecting | ⟨m, hm, hm'⟩ | hsettled
    · exact .inl hreconnecting
    · rcases Multiset.mem_cons.mp hm with rfl | hm
      · cases hm'
      · exact .inr (.inl ⟨m, hm, hm'⟩)
    · exact .inr (.inr hsettled)
  · exact h.own m (Multiset.mem_cons_of_mem hm)
  · exact h.sending m (Multiset.mem_cons_of_mem hm)

/-- A change of the reconnection handler, behind which the flag is set if it has to be. -/
theorem setHandler (h : Alternates cfg s P) (f : ReconnectionHandler → ReconnectionHandler)
    (hf : Outage s → (∀ handler, s.reconnectionHandler = some handler →
        (f handler).reconnecting = true) ∨ (∃ l ∈ P, isReporting l = true) ∨ isSettled s = false) :
    Alternates cfg { s with reconnectionHandler := s.reconnectionHandler.map f } P := by
  have hsome : (s.reconnectionHandler.map f).isSome = s.reconnectionHandler.isSome := by simp
  refine { h with
    configured := hsome.trans h.configured
    outage := fun hout => ?_
    reported := fun hne => ⟨(h.reported hne).1, hsome.trans (h.reported hne).2⟩ }
  rcases hf hout with hset | hrest
  · obtain ⟨k, hk, -⟩ := hout
    obtain ⟨handler, hhandler⟩ :=
      Option.isSome_iff_exists.mp (h.reported (List.ne_nil_of_mem hk)).2
    left
    simp [isReconnecting, hhandler, hset handler hhandler]
  · exact .inr hrest

/-- During an outage a websocket and the reconnection handler are there. -/
theorem of_outage (h : Alternates cfg s P) (hout : Outage s) :
    s.ws ≠ none ∧ s.greenlet ≠ none ∧ ∃ handler, s.reconnectionHandler = some handler := by
  obtain ⟨k, hk, -⟩ := hout
  obtain ⟨hws, hhandler⟩ := h.reported (List.ne_nil_of_mem hk)
  exact ⟨hws, h.greenlet hws, Option.isSome_iff_exists.mp hhandler⟩

end Alternates

theorem alternating_modify {f : State → State}
    (hf : ∀ s, Alternates.view (f s) = Alternates.view s)
    (hcurrent : ∀ s, (f s).history.current = s.history.current) :
    Keeps (alternating cfg t) (AltInv cfg t) (modify f : Hub Unit) :=
  Keeps.modify fun s _ h => ⟨h.1.congr (hf s), (hcurrent s).trans h.2⟩

theorem alternating_setApp {app : Nat} {f : App → App}
    (hf : ∀ a, (f a).restarted = a.restarted) :
    Keeps (alternating cfg t) (AltInv cfg t) (setApp app f) :=
  alternating_modify (fun s => by
    simp only [Alternates.view, map_modify hf]
    rfl) fun _ => rfl

/-- An operation other than a write, the `on_reconnect` callback, and the wait for a
websocket. -/
theorem alternating_perform {op : Op} (hreporting : isReporting (.blocked t op) = false)
    (hsending : isWriting (.blocked t op) = false) :
    Keeps (alternating cfg t) (AltInv cfg t) (perform op) := by
  refine Keeps.perform (fun s P h => ?_) fun s P r h hres => ⟨?_, hres.1⟩
  · exact h.1.relabel rfl (fun hready => by cases hready) fun hwrite => by
      rw [hsending] at hwrite
      cases hwrite
  · exact h.relabel rfl (fun hblocked => by rw [hreporting] at hblocked; cases hblocked)
      fun hready => by cases hready

theorem alternating_fork {t' : Activity} (ht : ∀ app, t' ≠ .runForever app) :
    Keeps (alternating cfg t) (AltInv cfg t) (fork t' : Hub Unit) := by
  refine Keeps.fork fun s P h => ⟨?_, h.2⟩
  rw [Multiset.cons_swap]
  exact h.1.cons fun app happ => absurd happ (ht app)

theorem alternating_setState (value : ConnectionState) :
    Keeps (alternating cfg t) (AltInv cfg t) (WebsocketTransport.setState value) :=
  Keeps.bind (alternating_modify (fun _ => rfl) fun _ => rfl) fun _ =>
    Keeps.when fun _ => alternating_modify (fun _ => rfl) fun _ => rfl

/-- The websocket that is created is not settled, unless the user starts it. -/
theorem alternating_createApp {h : List (Logged State Exc Op Op.Result)} (hI : AltInv cfg t s P)
    (hstart : t.isStart = true → (isReconnecting s || isSettled s) = true) :
    WebsocketTransport.createApp.wp (alternating cfg t)
      (fun r s P _ => r = .ok () ∧ AltInv cfg t s P) s P h := by
  obtain ⟨halt, hcurrent⟩ := hI
  refine ⟨rfl, ?_, hcurrent⟩
  have hnew : isSettled { s with
      apps := s.apps ++ [WebsocketTransport.newApp s.url s.oldHeaders.length (!t.isStart)]
      ws := some s.apps.length } = t.isStart := by
    have hfresh : s.apps.length ∉ s.history.accepted := fun hmem =>
      lt_irrefl _ (halt.accepted _ hmem)
    simp [isSettled, WebsocketTransport.newApp, hfresh]
  have hcreated : Alternates cfg { s with
      apps := s.apps ++ [WebsocketTransport.newApp s.url s.oldHeaders.length (!t.isStart)]
      ws := some s.apps.length
      greenlet := some s.apps.length } (.ready t ::ₘ P) := by
    -- the new websocket is settled exactly if the `start()` of the user has created it
    refine { halt with
      outage := fun hout => ?_
      accepted := fun app happ => ?_
      greenlet := fun _ => by simp
      reported := fun hne => ⟨by simp, (halt.reported hne).2⟩
      own := fun l hl app happ => ?_
      sending := fun _ _ _ => by simp }
    · rcases halt.outage hout with hreconnecting | hreporting | hsettled
      · exact .inl hreconnecting
      · exact .inr (.inl hreporting)
      · cases hisStart : t.isStart with
        | false =>
            rw [hisStart] at hnew
            exact .inr (.inr hnew)
        | true =>
            have hflag := hstart hisStart
            rw [hsettled, Bool.or_false] at hflag
            exact .inl hflag
    · have hlt := halt.accepted app happ
      simp only [List.length_append, List.length_singleton]
      omega
    · have hlt := halt.own l hl app happ
      simp only [List.length_append, List.length_singleton]
      omega
  have hnext := hcreated.cons (t := .runForever s.apps.length) fun app happ => by
    cases happ
    simp
  rw [Multiset.cons_swap] at hnext
  have hisStart : s.history.current.isStart = t.isStart := by rw [hcurrent]
  refine hnext.congr ?_
  simp [Alternates.view, isReconnecting, hisStart]

/-! ## Restarts -/

theorem alternating_keepsRestart (ht : t.isStart = false) :
    KeepsRestart (alternating cfg t) (AltInv cfg t) where
  checker := alternating_modify (fun _ => rfl) fun _ => rfl
  closing := fun _ => alternating_setApp fun _ => rfl
  closed := fun _ => alternating_setApp fun _ => rfl
  disconnected := alternating_setState _
  connecting := alternating_setState _
  handshakeReceived := alternating_modify (fun _ => rfl) fun _ => rfl
  killed := fun _ => WebsocketTransport.keeps_killApp
    (fun _ => alternating_modify (fun _ => rfl) fun _ => rfl) (alternating_setApp fun _ => rfl)
  restarts := alternating_modify (fun _ => rfl) fun _ => rfl
  token := fun _ => alternating_modify (fun _ => rfl) fun _ => rfl
  redirect := fun _ _ => alternating_modify (fun _ => rfl) fun _ => rfl
  create := by
    intro s P h hI
    have hcreate := alternating_createApp (h := h) hI fun hstart => by
      rw [ht] at hstart
      cases hstart
    exact wp_mono (fun _ _ _ _ hpost => hpost.2) hcreate

theorem alternating_throwsRestart :
    ThrowsRestart (alternating cfg t) (AltInv cfg t) (GivesUpOrNot t) cfg where
  block := fun s P op hop h => h.1.relabel rfl (fun hready => by cases hready) fun hwrite => by
    cases op with
    | wsSend app message => cases hop
    | _ => cases hwrite
  resume := by
    rintro s P op r hop halt ⟨hcurrent, ⟨-, -, -, -, hdeferred⟩, -⟩
    refine ⟨⟨halt.relabel rfl (fun hblocked => ?_) fun hready => (by cases hready), hcurrent⟩, ?_⟩
    · cases op with
      | callback callback => cases hop
      | _ => cases hblocked
    · intro e he hisDeferred hexception _
      have hor := hdeferred hisDeferred e he hexception
      cases hnext : hasNext s with
      | true => exact .inl rfl
      | false =>
          rw [hnext, Bool.false_or] at hor
          exact .inr (.inr (by simpa using hor))
  greenlet := fun s P h hnone _ _ hout => absurd hnone (h.1.of_outage hout).2.1

/-- A lost connection, of which `handle_reconnect` knows whether to report it. -/
def Lost (cfg : Config) (t : Activity) : HubInv := fun s P =>
  AltInv cfg t s P ∧ (isReconnecting s = false → s.onReconnect = true →
    s.ws ≠ none ∧ isSettled s = true ∧ ∀ l ∈ P, isReporting l = false)

namespace WebsocketTransport

/-- The flag is set behind the callback: nothing in between looks at it. -/
theorem alternating_setTrue {h : List (Logged State Exc Op Op.Result)}
    (halt : Alternates cfg s (l ::ₘ P)) (hl : l.thread = t) (hcurrent : s.history.current = t)
    (hsome : cfg.reconnection.isSome = true) :
    (setReconnecting true).wp (alternating cfg t) (fun r s P _ => r = .ok () ∧ AltInv cfg t s P)
      s P h := by
  have hhandler : s.reconnectionHandler.isSome = true := halt.configured.trans hsome
  obtain ⟨handler, hhandler⟩ := Option.isSome_iff_exists.mp hhandler
  unfold setReconnecting reconnectionHandler setHandler
  simp only [wp_bind, wp_get, hhandler, Option.elim_some, wp_pure, wp_modify]
  have hset := halt.setHandler (fun handler => { handler with reconnecting := true })
    fun _ => .inl fun _ _ => rfl
  have hready : Alternates cfg _ (.ready t ::ₘ P) := hset.relabel hl.symm
    (fun _ => by simp [isReconnecting, hhandler]) fun hready => by cases hready
  rw [hhandler] at hready
  exact ⟨trivial, hready, hcurrent⟩

/-- The callback is called at most once in an outage. -/
theorem alternating_announce {handler : ReconnectionHandler}
    {h : List (Logged State Exc Op Op.Result)} (hlost : Lost cfg t s P)
    (hhandler : s.reconnectionHandler = some handler) :
    (announce handler s).wp (alternating cfg t) (fun r s P _ => r = .ok () ∧ AltInv cfg t s P)
      s P h := by
  obtain ⟨⟨halt, hcurrent⟩, hfirst⟩ := hlost
  have hsome : cfg.reconnection.isSome = true := by
    rw [← halt.configured, hhandler]
    rfl
  have hflag : isReconnecting s = handler.reconnecting := by simp [isReconnecting, hhandler]
  unfold announce
  rw [wp_bind, wp_when]
  split_ifs with hdue
  · rw [Bool.and_eq_true, Bool.not_eq_true'] at hdue
    obtain ⟨hws, hsettled, hreporting⟩ := hfirst (hflag.trans hdue.1) hdue.2
    have hover : ¬ Outage s := by
      intro hout
      rcases halt.outage hout with hset | ⟨l, hl, hl'⟩ | hunsettled
      · rw [hflag, hdue.1] at hset
        cases hset
      · rcases Multiset.mem_cons.mp hl with rfl | hl
        · cases hl'
        · rw [hreporting l hl] at hl'
          cases hl'
      · rw [hsettled] at hunsettled
        cases hunsettled
    -- the new entry exceeds every older one
    have hbelow : ∀ k ∈ s.history.reconnects, k.accepted < s.history.accepted.length :=
      fun k hk => lt_of_le_of_ne (halt.opened k hk).1 fun heq => hover ⟨k, hk, heq⟩
    have hcalled : Alternates cfg { s with history := { s.history with
        reconnects := s.history.reconnects ++
          [⟨s.history.accepted.length, s.history.acceptedOpen, s.history.opens⟩] } }
        (.blocked t (.callback .onReconnect) ::ₘ P) := by
      refine { halt with
        increasing := ?_
        opened := fun k hk => ?_
        outage := fun _ => .inr (.inl ⟨_, Multiset.mem_cons_self _ P, rfl⟩)
        reported := fun _ => ⟨hws, halt.configured.trans hsome⟩
        own := fun l hl => ?_
        sending := fun l hl => ?_ }
      · refine List.pairwise_append.mpr ⟨halt.increasing, List.pairwise_singleton _ _, ?_⟩
        intro k hk k' hk'
        rw [List.mem_singleton.mp hk']
        exact ⟨hbelow k hk, (halt.opened k hk).2⟩
      · rcases List.mem_append.mp hk with hk | hk
        · exact halt.opened k hk
        · rw [List.mem_singleton.mp hk]
          exact ⟨le_refl _, le_refl _⟩
      · rcases Multiset.mem_cons.mp hl with rfl | hl
        · exact halt.own (.ready t) (Multiset.mem_cons_self _ P)
        · exact halt.own l (Multiset.mem_cons_of_mem hl)
      · rcases Multiset.mem_cons.mp hl with rfl | hl
        · exact fun hwrite => by cases hwrite
        · exact halt.sending l (Multiset.mem_cons_of_mem hl)
    unfold reportReconnect record call
    rw [wp_bind, wp_modify, wp_perform]
    refine ⟨hcalled, ?_⟩
    rintro s P r halt ⟨hcurrent, ⟨-, -, -, hfails, -⟩, -⟩
    rcases r with e | _
    · cases hfails
    · exact alternating_setTrue halt rfl hcurrent hsome
  · exact alternating_setTrue halt rfl hcurrent hsome

theorem alternating_handleReconnect (ht : t.isStart = false)
    {h : List (Logged State Exc Op Op.Result)} (hlost : Lost cfg t s P) :
    (handleReconnect cfg).wp (alternating cfg t)
      (fun r s P _ => AltInv cfg t s P ∧ ∀ e, r = .error e → GivesUp t e s P) s P h := by
  refine wp_handleReconnect (J := Lost cfg t) (fun s P hlost hnone => ⟨hlost.1, ?_⟩)
    (fun s P h handler hlost hhandler => ?_)
    (throws_reconnect (alternating_keepsRestart ht) alternating_throwsRestart)
    (fun e s P h hI hF => ?_) hlost
  · intro _ _ hout
    obtain ⟨handler, hhandler⟩ := (hlost.1.1.of_outage hout).2.2
    rw [hnone] at hhandler
    cases hhandler
  · refine wp_mono ?_ (alternating_announce hlost hhandler)
    rintro r s P h ⟨rfl, hI⟩
    exact ⟨hI, fun _ hr => by cases hr⟩
  · refine wp_deferReconnect (fun he => ⟨hI, ?_⟩) (fun _ hnone => ⟨hI, ?_⟩)
      fun handler he hhandler s' hs' => ?_
    -- the exception is no `Exception`: it leaves the handler, and no attempt is planned
    · rintro _ ⟨⟩ _ hexception
      rw [he] at hexception
      cases hexception
    · rintro _ ⟨⟩ _ _ hout
      obtain ⟨handler, hhandler⟩ := (hI.1.of_outage hout).2.2
      rw [hnone] at hhandler
      cases hhandler
    · -- `next` sets the flag, whether it returns or raises
      have hset : handler.next.1.reconnecting = true := by
        unfold ReconnectionHandler.next
        split
        · split_ifs <;> rfl
        · rfl
        · rfl
      have halt := hI.1.setHandler (fun _ => handler.next.1) fun _ => .inl fun _ _ => hset
      have hkept : AltInv cfg t s' P := by
        subst hs'
        refine ⟨halt.congr ?_, hI.2⟩
        simp [Alternates.view, isReconnecting, hhandler]
      have hsame : Outage s' → Outage s := by
        subst hs'
        exact id
      have hsettled : isSettled s' = isSettled s := by
        subst hs'
        rfl
      split
      · rename_i sleepTime hnext
        have hforked : Keeps (alternating cfg t) (AltInv cfg t)
            (fork (.deferredReconnect sleepTime) : Hub Unit) :=
          alternating_fork fun app happ => by cases happ
        exact ⟨hforked s' P h hkept, fun _ hr => by cases hr⟩
      · rename_i e' hnext
        refine ⟨hkept, ?_⟩
        rintro _ ⟨⟩ hisDeferred _ hout
        rw [hsettled]
        rcases hF hisDeferred he (hsame hout) with hhas | hrest
        · simp [hasNext, hhandler, hnext, Except.isOk, Except.toBool] at hhas
        · exact hrest

/-- Without a reconnection handler there are no outages. -/
theorem alternating_reportLost {e : Exc} (hnone : cfg.reconnection.isSome = false) :
    Throws (alternating cfg t) (AltInv cfg t) (GivesUp t) (reportLost e) := by
  have hnever : ∀ e s P, AltInv cfg t s P → GivesUp t e s P := by
    intro e s P hI _ _ hout
    obtain ⟨handler, hhandler⟩ := (hI.1.of_outage hout).2.2
    have hconfigured := hI.1.configured
    rw [hhandler, hnone] at hconfigured
    cases hconfigured
  exact Throws.mono (fun s P h hI => wp_mono (fun r s P _ hI => ⟨hI, fun _ _ => trivial⟩)
    (keeps_reportLost (alternating_perform rfl rfl) s P h hI)) fun e s P hI (_ : True) =>
      hnever e s P hI

theorem alternating_failing {app : Nat} {e : Exc} (h : AltInv cfg t s P) :
    AltInv cfg t (failing app e s) P := by
  refine ⟨h.1.congr ?_, h.2⟩
  have hmap : (s.apps.modify app fun a =>
      { a with lost := a.lost || e.isConnectionLost }).map (·.restarted) =
        s.apps.map (·.restarted) := map_modify fun _ => rfl
  simp only [Alternates.view, hmap]
  rfl

theorem alternating_sendRule {message : Outgoing}
    (hping : isDeferred t = true → message = .hub .ping) :
    SendRule (alternating cfg t) (AltInv cfg t) (Lost cfg t) (GivesUp t) cfg message where
  unstored := fun s P hI hnone _ _ hout => absurd hnone (hI.1.of_outage hout).1
  encode := by
    intro s P e hI he hisDeferred
    obtain ⟨raw, hraw⟩ := cfg.protocol.encode_ping
    rw [hping hisDeferred, hraw] at he
    cases he
  block := by
    intro s P app hI hws
    refine (hI.1.congr ?_).relabel rfl (fun hready => by cases hready) fun _ => ?_
    · rfl
    · rw [hws]
      exact Option.some_ne_none app
  written := by
    rintro s P app halt ⟨hcurrent, ⟨-, -, hwritten, -⟩, -⟩
    have hready : Alternates cfg s (.ready t ::ₘ P) :=
      halt.relabel rfl (fun hblocked => by cases hblocked) fun hready => by cases hready
    refine ⟨(hready.setHandler (·.reset) fun hout => .inr ?_).congr rfl, hcurrent⟩
    -- a write that succeeds while the flag is set belongs to a settled connection
    rcases hready.outage hout with hset | hrest
    · exact .inr (hwritten rfl hset)
    · exact hrest
  lost := by
    rintro s P app e halt ⟨hcurrent, ⟨-, hlost, -⟩, -⟩ he
    have hready : Alternates cfg s (.ready t ::ₘ P) :=
      halt.relabel rfl (fun hblocked => by cases hblocked) fun hready => by cases hready
    have hsettled : isSettled (failing app e s) = isSettled s :=
      isSettled_congr rfl (map_modify fun _ => rfl) rfl
    refine ⟨alternating_failing ⟨hready, hcurrent⟩, fun hflag hregistered => ?_⟩
    rw [hsettled]
    exact ⟨halt.sending _ (Multiset.mem_cons_self _ P) rfl, hlost he hflag hregistered⟩
  failed := by
    rintro s P app e halt ⟨hcurrent, -, hpossible⟩ he
    have hready : Alternates cfg s (.ready t ::ₘ P) :=
      halt.relabel rfl (fun hblocked => by cases hblocked) fun hready => by cases hready
    refine ⟨alternating_failing ⟨hready, hcurrent⟩, fun _ hexception => ?_⟩
    rcases Hub.possible_write hpossible with hlost | rfl
    · rw [he] at hlost
      cases hlost
    · cases hexception

theorem alternating_send {message : Outgoing} (ht : t.isStart = false)
    (hping : isDeferred t = true → message = .hub .ping) :
    Throws (alternating cfg t) (AltInv cfg t) (GivesUp t) (send cfg message) := by
  refine throws_send (alternating_sendRule hping) fun e s P h hlost => ?_
  have hdown : Lost cfg t (down s) P := ⟨⟨hlost.1.1.congr rfl, hlost.1.2⟩, hlost.2⟩
  refine wp_connectionLost (fun hnone => ?_) fun _ => alternating_handleReconnect ht hdown
  refine alternating_reportLost ?_ _ P h hdown.1
  rw [← hlost.1.1.configured, hnone]
  rfl

/-- A deferred reconnect clears the flag where its ping has failed. -/
theorem alternating_deferredReconnect (ht : isDeferred t = true) {sleepTime : Int} :
    Keeps (alternating cfg t) (AltInv cfg t) (deferredReconnect cfg sleepTime) := by
  have hstart : t.isStart = false := by
    cases t with
    | deferredReconnect sleepTime => rfl
    | _ => cases ht
  have hsleep : Throws (alternating cfg t) (AltInv cfg t) (GivesUp t) (sleep sleepTime) := by
    refine Throws.perform (fun s P h => ?_) fun s P r halt hres => ?_
    · exact h.1.relabel rfl (fun hready => by cases hready) fun hwrite => by cases hwrite
    · refine ⟨⟨halt.relabel rfl (fun hblocked => (by cases hblocked)) fun hready =>
        (by cases hready), hres.1⟩, ?_⟩
      rintro e rfl _ hexception
      rw [Hub.possible_sleep_error hres.2.2] at hexception
      cases hexception
  have hping : Throws (alternating cfg t) (AltInv cfg t) (GivesUp t) (pingLater cfg sleepTime) :=
    Throws.bind hsleep fun _ => Throws.bind .get fun _ => Throws.when fun _ =>
      alternating_send hstart fun _ => rfl
  refine Throws.keeps (F := fun _ _ _ => True) (Throws.tryCatch hping fun e s P h hI hgivesUp => ?_)
  unfold pingFailed setReconnecting reconnectionHandler setHandler
  split_ifs with he
  · simp only [wp_bind, wp_get]
    cases hhandler : s.reconnectionHandler with
    | none => exact ⟨hI, fun _ _ => trivial⟩
    | some handler =>
        simp only [Option.elim_some, wp_pure, wp_modify]
        have halt := hI.1.setHandler (fun handler => { handler with reconnecting := false })
          fun hout => .inr ?_
        · exact ⟨⟨halt.congr rfl, hI.2⟩, fun _ _ => trivial⟩
        · rcases hgivesUp ht he hout with ⟨l, hl, hreporting⟩ | hsettled
          · exact .inl ⟨l, Multiset.mem_cons_of_mem hl, hreporting⟩
          · exact .inr hsettled
  · exact ⟨hI, fun _ _ => trivial⟩

/-! ## Messages -/

theorem alternating_call {callback : Callback} (hcallback : callback ≠ .onReconnect) :
    Keeps (alternating cfg t) (AltInv cfg t) (call callback) := by
  refine alternating_perform ?_ rfl
  cases callback with
  | onReconnect => exact absurd rfl hcallback
  | _ => rfl

theorem alternating_stop (site : StopSite) :
    Keeps (alternating cfg t) (AltInv cfg t) (stop site) :=
  keeps_stop (alternating_modify (fun _ => rfl) fun _ => rfl)
    (keeps_closeWs (fun _ => alternating_setApp fun _ => rfl)
      (fun _ => alternating_perform rfl rfl) fun _ => alternating_setApp fun _ => rfl)
    (alternating_setState _) (alternating_modify (fun _ => rfl) fun _ => rfl)

theorem alternating_reportEnd (site : CloseSite) :
    Keeps (alternating cfg t) (AltInv cfg t) (reportEnd site) :=
  keeps_reportEnd (alternating_modify (fun _ => rfl) fun _ => rfl) (alternating_setState _)

theorem alternating_onSocketError (site : CloseSite) :
    Keeps (alternating cfg t) (AltInv cfg t) (onSocketError site) :=
  keeps_onSocketError (alternating_reportEnd _) (alternating_call (by simp))

/-- The call of `on_open` that is due behind an evaluated handshake is counted already. -/
abbrev counting (s : State) : State :=
  { s with history := { s.history with
    opens := s.history.opens + if s.onOpen then 1 else 0 } }

/-- The invariant behind an evaluated handshake. -/
abbrev CountingInv (cfg : Config) (t : Activity) : HubInv :=
  fun s P => AltInv cfg t (counting s) P

/-- A call of `on_open` too many does no harm. -/
theorem alternating_opening (hI : AltInv cfg t s P) : CountingInv cfg t s P := by
  refine ⟨{ hI.1 with opened := fun k hk => ?_ }, hI.2⟩
  obtain ⟨hle, hopens⟩ := hI.1.opened k hk
  exact ⟨hle, by dsimp only; omega⟩

/-- There is no outage. -/
abbrev Back (cfg : Config) (t : Activity) : HubInv :=
  fun s P => CountingInv cfg t s P ∧ ¬ Outage s

theorem back_handshakeDone :
    Throws (alternating cfg t) (Back cfg t) (fun _ _ _ => False) handshakeDone := by
  have hhandler : ∀ f, Keeps (alternating cfg t) (Back cfg t) (setHandler f) := by
    refine fun f => Keeps.modify fun s P hback => ⟨⟨?_, hback.1.2⟩, hback.2⟩
    exact hback.1.1.setHandler f fun hout => absurd hout hback.2
  have hrunning : Keeps (alternating cfg t) (Back cfg t)
      (modify fun s => { s with running := true } : Hub Unit) :=
    Keeps.modify fun s P hback => ⟨⟨hback.1.1.congr rfl, hback.1.2⟩, hback.2⟩
  have hfork : Keeps (alternating cfg t) (AltInv cfg t) (fork .checkerRun : Hub Unit) :=
    alternating_fork fun app happ => by cases happ
  exact Throws.bind .get fun _ => Throws.when fun _ =>
    Throws.bind (throws_of_keeps_modify (hhandler _)) fun _ => Throws.when fun _ =>
      Throws.bind (throws_of_keeps_modify hrunning) fun _ =>
        Throws.fork fun s P hback => ⟨hfork _ P [] hback.1, hback.2⟩

/-- An accepted handshake ends an outage. -/
theorem alternating_acceptHandshake {app : Nat} {h : List (Logged State Exc Op Op.Result)}
    (hI : AltInv cfg (.runForever app) s P) :
    (acceptHandshake app).wp (alternating cfg (.runForever app))
      (fun r s P _ =>
        match r with
        | .ok _ => CountingInv cfg (.runForever app) s P
        | .error _ => AltInv cfg (.runForever app) s P) s P h := by
  obtain ⟨halt, hcurrent⟩ := hI
  have hover : ∀ k ∈ s.history.reconnects, k.accepted ≠ s.history.accepted.length + 1 := by
    intro k hk heq
    have hle := (halt.opened k hk).1
    omega
  -- no report names a handshake that has not been accepted before
  unfold acceptHandshake setHandshakeReceived setState record
  simp only [wp_bind, wp_modify, wp_get, wp_when, decide_true, if_true]
  refine wp_mono ?_ (back_handshakeDone _ P h ⟨⟨?_, hcurrent⟩, ?_⟩)
  · rintro (e | _) s P h ⟨hback, hraise⟩
    · exact absurd rfl (hraise e)
    · exact hback.1
  · refine { halt with
      opened := fun k hk => ?_
      outage := fun hout => ?_
      accepted := fun app' happ' => ?_ }
    · obtain ⟨hle, hopens⟩ := halt.opened k hk
      refine ⟨?_, ?_⟩
      · rw [List.length_append]
        omega
      · dsimp only
        split_ifs <;> omega
    · obtain ⟨k, hk, heq⟩ := hout
      rw [List.length_append, List.length_singleton] at heq
      exact absurd heq (hover k hk)
    · rcases List.mem_append.mp happ' with happ' | happ'
      · exact halt.accepted app' happ'
      · rw [List.mem_singleton.mp happ']
        exact halt.own _ (Multiset.mem_cons_self _ P) app rfl
  · rintro ⟨k, hk, heq⟩
    rw [List.length_append, List.length_singleton] at heq
    exact hover k hk heq

/-- The call that is due takes place. -/
theorem alternating_reportOpen : Leads (alternating cfg t) (CountingInv cfg t) (AltInv cfg t) reportOpen := by
  intro s P h hdue
  unfold reportOpen setState record
  simp only [wp_bind, wp_get, wp_when, wp_modify, decide_true, if_true]
  split_ifs with hopen
  · refine alternating_call (by simp) _ P h ⟨hdue.1.congr ?_, hdue.2⟩
    simp [Alternates.view, isReconnecting, hopen]
  · refine ⟨hdue.1.congr ?_, hdue.2⟩
    simp [Alternates.view, isReconnecting, hopen]

theorem alternating_receive {app : Nat} {raw : Raw} :
    Keeps (alternating cfg (.runForever app)) (AltInv cfg (.runForever app))
      (receive cfg app raw) := by
  intro s P h hI
  have hplain : ∀ received, AltInv cfg (.runForever app)
      { s with history := { s.history with received } } P :=
    fun _ => ⟨hI.1.congr rfl, hI.2⟩
  refine wp_receive_due (J := CountingInv cfg (.runForever app)) rfl (hplain _) (fun _ response _ => ?_)
    alternating_reportOpen
  have hreject : Keeps (alternating cfg (.runForever app)) (AltInv cfg (.runForever app))
      rejectHandshake :=
    keeps_rejectHandshake (alternating_modify (fun _ => rfl) fun _ => rfl)
      (alternating_onSocketError _) (alternating_stop _) (alternating_setState _)
  unfold judge
  split_ifs
  · exact alternating_acceptHandshake (hplain _)
  · refine wp_mono ?_ (hreject _ P h (hplain _))
    rintro (e | _) s P h hI
    · exact hI
    · exact alternating_opening hI

theorem alternating_messages (messages : List Message) :
    Keeps (alternating cfg t) (AltInv cfg t) (Connection.onMessage messages) := by
  have hdispatch : Connection.KeepsDispatch (alternating cfg t) (AltInv cfg t) :=
    { calls := ⟨fun _ => alternating_modify (fun _ => rfl) fun _ => rfl,
        fun _ _ => alternating_call (by simp)⟩
      dispatched := fun _ => alternating_modify (fun _ => rfl) fun _ => rfl
      unregister := fun _ => alternating_modify (fun _ => rfl) fun _ => rfl
      event := fun _ _ => alternating_call (by simp)
      error := fun _ => alternating_call (by simp) }
  exact Connection.keeps_onMessage (fun _ => Connection.keeps_dispatch hdispatch)
    (alternating_stop _)

/-- A `start()` of the user. -/
theorem alternating_start {h : List (Logged State Exc Op Op.Result)}
    (hI : AltInv cfg .start s P)
    (hready : cfg.auth = false → cfg.skipNegotiation = true → StartsSettled s) :
    (Connection.start cfg).wp (alternating cfg .start)
      (fun _ s P _ => AltInv cfg .start s P) s P h := by
  -- a `start()` waits for a token or for a response, and neither reports nor writes
  have hblock : ∀ {op} s P, isWriting (.blocked .start op) = false → AltInv cfg .start s P →
      Alternates cfg s (.blocked .start op ::ₘ P) := by
    intro op s P hsending h
    refine h.1.relabel rfl (fun hready => by cases hready) fun hwrite => ?_
    rw [hsending] at hwrite
    cases hwrite
  have hready' : ∀ {op} s P r, isReporting (.blocked .start op) = false →
      Alternates cfg s (.blocked .start op ::ₘ P) →
        (alternating cfg .start).resume s P op r → AltInv cfg .start s P := by
    intro op s P r hreporting h hres
    refine ⟨h.relabel rfl (fun hblocked => ?_) fun hready => (by cases hready), hres.1⟩
    rw [hreporting] at hblocked
    cases hblocked
  have rule : StartRule (alternating cfg .start) (AltInv cfg .start) (fun s _ => StartsSettled s)
      (fun _ s P _ => AltInv cfg .start s P) cfg :=
    { headers := fun s P url headers oldHeaders h => ⟨h.1.congr rfl, h.2⟩
      ready := fun _ _ _ _ _ h => h
      auth_block := fun s P h => hblock s P rfl h
      auth := by
        intro s P h r halt hres
        have hI := hready' s P r rfl halt hres
        rcases r with e | token
        · exact hI
        · exact ⟨hI, fun hskip => hres.2.1.1 rfl hskip rfl⟩
      post_block := fun s P url headers h => hblock s P rfl h
      post := by
        intro s P h url headers r halt hres
        have hI := hready' s P r rfl halt hres
        rcases r with e | response
        · exact hI
        · dsimp only
          split
          · exact ⟨hI, hres.2.1.1 rfl rfl rfl⟩
          · exact hI
      finish := by
        intro s P h hI hsettled
        unfold finishStart
        simp only [wp_bind, wp_get, wp_when]
        split_ifs with hconnected
        · rw [setState_connecting, wp_modify]
          refine wp_mono (fun _ _ _ _ hpost => hpost.2) (alternating_createApp ?_ fun _ => ?_)
          · exact ⟨hI.1.congr rfl, hI.2⟩
          · exact hsettled (by simpa using hconnected)
        · exact hI }
  exact wp_start rule hI hready

end WebsocketTransport

/-! ## Runs -/

theorem alternating_runForever (app : Nat) :
    Keeps (alternating cfg (.runForever app)) (AltInv cfg (.runForever app))
      (WebSocketApp.runForever cfg app) := by
  have hset : ∀ f : App → App, (∀ a, (f a).restarted = a.restarted) →
      Keeps (alternating cfg (.runForever app)) (AltInv cfg (.runForever app)) (setApp app f) :=
    fun f hf => alternating_setApp hf
  have hcallback : ∀ {isOver p}, Keeps (alternating cfg (.runForever app))
      (AltInv cfg (.runForever app)) p → Keeps (alternating cfg (.runForever app))
        (AltInv cfg (.runForever app)) (WebSocketApp.callback app isOver p) :=
    fun hp => WebSocketApp.keeps_callback hp (WebsocketTransport.alternating_onSocketError _)
  have hready : ∀ s P r, Alternates cfg s (.blocked (.runForever app) (.event app) ::ₘ P) →
      (alternating cfg (.runForever app)).resume s P (.event app) r →
        AltInv cfg (.runForever app) s P := by
    intro s P r halt hres
    exact ⟨halt.relabel rfl (fun hblocked => (by cases hblocked)) fun hready => (by cases hready),
      hres.1⟩
  have hround : WebSocketApp.KeepsRound (alternating cfg (.runForever app))
      (AltInv cfg (.runForever app)) cfg app :=
    { block := fun _ _ h =>
        h.1.relabel rfl (fun hready => by cases hready) fun hwrite => by cases hwrite
      resume := hready
      opened := fun s P h halt hres => WebSocketApp.keeps_handleOpened (hset _ fun _ => rfl)
        (hcallback (WebsocketTransport.alternating_send rfl fun hdeferred =>
          by cases hdeferred).keeps) s P h (hready s P _ halt hres)
      message := fun raw s P h halt hres => WebSocketApp.leads_handleMessage
        WebsocketTransport.alternating_receive WebsocketTransport.alternating_messages
        (WebsocketTransport.alternating_onSocketError _) s P h (hready s P _ halt hres)
      silent := hset _ fun _ => rfl
      error := hcallback (WebsocketTransport.alternating_onSocketError _) }
  exact WebSocketApp.keeps_runForever (hset _ fun _ => rfl) (hset _ fun _ => rfl)
    (WebSocketApp.keeps_round hround)
    (WebSocketApp.keeps_teardown (hset _ fun _ => rfl) (hcallback (WebsocketTransport.keeps_onClosed
      (WebsocketTransport.alternating_reportEnd _)
      (WebsocketTransport.alternating_call (by simp)))) (hset _ fun _ => rfl))

theorem alternating_methods (hstart : t.isStart = false) (hdeferred : isDeferred t = false) :
    KeepsMethods (alternating cfg t) (AltInv cfg t) cfg where
  send := fun _ _ => (WebsocketTransport.alternating_send hstart fun hdeferred' => by
    rw [hdeferred] at hdeferred'
    cases hdeferred').keeps
  auth := alternating_perform rfl rfl
  sleep := fun _ => alternating_perform rfl rfl
  acquire := fun _ => alternating_perform rfl rfl
  register := fun _ => Connection.keeps_register (alternating_modify (fun _ => rfl) fun _ => rfl)
    (alternating_modify (fun _ => rfl) fun _ => rfl)
  modify := by
    intro f hf hhandler
    refine alternating_modify (fun s => ?_) fun s => (congrArg (·.history.current) (hf s) :)
    have hview := congrArg Alternates.view (hf s)
    simp only [Alternates.view, offActivities, Prod.mk.injEq] at hview
    simp only [Alternates.view, isReconnecting, hhandler, Prod.mk.injEq]
    exact ⟨trivial, hview.2⟩

theorem alternating_body (t : Activity) {h : List (Logged State Exc Op Op.Result)}
    (hI : AltInv cfg t s P) (hstart : (Alternating cfg).start s P t) :
    (Hub.body cfg t).wp (alternating cfg t) (fun _ s P _ => AltInv cfg t s P) s P h := by
  by_cases hstart' : t = .start
  · subst hstart'
    show (Hub.once _).wp _ _ s P h
    unfold Hub.once record
    rw [wp_bind, wp_bind, wp_modify]
    refine wp_mono ?_ (WebsocketTransport.alternating_start ⟨hI.1.congr rfl, hI.2⟩ (hstart rfl))
    rintro (e | _) s P h hI <;> exact hI
  -- `start`, `stop` and the deferred attempt have their own lemmas; the rest share one
  by_cases hstop : t = .stop
  · subst hstop
    have hstopped : Keeps (alternating cfg .stop) (AltInv cfg .stop)
        (record fun h => { h with stopped := true }) :=
      alternating_modify (fun _ => rfl) fun _ => rfl
    exact keeps_once (Keeps.finally_ (WebsocketTransport.alternating_stop _) hstopped) s P h hI
  by_cases hdeferred : isDeferred t = true
  · cases t with
    | deferredReconnect sleepTime =>
        exact keeps_once (WebsocketTransport.alternating_deferredReconnect rfl) s P h hI
    | _ => cases hdeferred
  · have hisStart : t.isStart = false := by
      cases t with
      | start => exact absurd rfl hstart'
      | _ => rfl
    have hmethods : KeepsMethods (alternating cfg t) (AltInv cfg t) cfg :=
      alternating_methods hisStart (by simpa using hdeferred)
    refine hmethods.body hstart' hstop (fun app happ => ?_) (fun _ => ?_) (fun sleepTime ht => ?_)
      s P h hI
    · subst happ
      exact alternating_runForever app
    · exact ConnectionStateChecker.keeps_run (hmethods.sleep _)
        (WebsocketTransport.alternating_send hisStart fun hdeferred' => absurd hdeferred' hdeferred).keeps
    · subst ht
      exact absurd rfl hdeferred

theorem alternating_proof :
    Proof (hub cfg) (Alternating cfg) (Alternates cfg) fun _ _ _ _ => True := by
  refine Hub.proof_running ⟨fun _ _ _ h => h.congr rfl, fun _ _ _ _ h => h,
    fun _ _ _ _ _ _ h => h⟩ ?_ ?_ fun s P t halt hstart hcurrent => ?_
  · constructor
    · simp [State.new]
    all_goals simp [State.new, History.new, Outage]
  · intro s P t halt harrives _
    exact halt.cons fun app happ => absurd happ (Hub.ne_runForever_of_arrives harrives app)
  · exact ends_of_ready (fun _ _ h => h.tail)
      (wp_mono (fun _ _ _ _ hI => hI.1) (alternating_body t ⟨halt, hcurrent⟩ hstart))

/-- Where the flag is only cleared when the connection is back or cannot be lost before it is:
between two calls of `on_reconnect` a handshake was accepted, and `on_open` was called for
every handshake that was accepted in between while it was registered. -/
theorem alternating_reconnects {w : World State Exc Op Op.Result Activity}
    (h : (hub cfg).Reach (Alternating cfg) w) :
    w.shared.history.reconnects.Pairwise Reconnection.Before :=
  (alternating_proof.sound h).holds.increasing

/-- Otherwise: the handshake request of the next websocket is written, and its connection is
lost before the response arrives. -/
theorem repeated_reconnect :
    ∃ w, (hub (.direct (some (.raw 5 none)))).Reach .any w ∧
      w.shared.history.accepted = [0] ∧
      ¬ w.shared.history.reconnects.Pairwise Reconnection.Before := by
  have h := (hub (.direct (some (.raw 5 none)))).reach_after [.fork (.onReconnect true),
    .start 0, .fork .start, .start 1, .start 2, .answer 2 (.happened .opened), .answer 2 .done,
    .start 2, .answer 2 (.happened (.message (.text "\x7b\x7d\x1e"))), .start 2, .start 3,
    .fork (.clock 16), .start 4, .answer 3 .done, .answer 3 (.raised .osError), .answer 3 .done,
    .answer 3 .done, .start 5, .answer 5 (.happened .opened), .answer 5 .done, .start 3,
    .fork (.clock 16), .start 6, .answer 3 .done, .answer 3 (.raised .osError)] .start rfl
  refine ⟨_, h, rfl, fun hpairwise => ?_⟩
  have hlast := List.rel_of_pairwise_cons hpairwise (List.mem_singleton_self _)
  exact absurd hlast.1 (lt_irrefl 1)

/-- Two outages. -/
theorem alternating_reconnects_twice :
    ∃ w, (hub (.direct (some (.raw 5 none)))).Reach
        (Alternating (.direct (some (.raw 5 none)))) w ∧
      w.shared.history.reconnects = [⟨1, 1, 1⟩, ⟨2, 2, 2⟩] ∧
      w.shared.history.reconnects.Pairwise Reconnection.Before := by
  have h := (hub (.direct (some (.raw 5 none)))).reach_within
    (Alternating (.direct (some (.raw 5 none)))) [.fork (.onReconnect true), .start 0,
    .fork (.onOpen true), .start 1,
    .fork .start, .start 2, .start 3, .answer 3 (.happened .opened), .answer 3 .done,
    .start 3, .answer 3 (.happened (.message (.text "\x7b\x7d\x1e"))), .answer 3 .done,
    .start 3, .start 4,
    .fork (.clock 16), .start 5, .answer 4 .done, .answer 4 (.raised .osError), .answer 4 .done,
    .answer 4 .done, .start 6, .answer 6 (.happened .opened), .answer 6 .done, .start 6,
    .answer 6 (.happened (.message (.text "\x7b\x7d\x1e"))), .answer 6 .done, .start 4,
    .fork (.clock 16), .start 7, .answer 4 .done, .answer 4 (.raised .osError)] .start rfl
  exact ⟨_, h, rfl, alternating_reconnects h⟩

end GeventSignalR
