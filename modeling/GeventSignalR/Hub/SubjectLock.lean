import GeventSignalR.Coop.Balance
import GeventSignalR.Hub.ClientStream

/-!
# The lock of a subject

`next`, `complete` and `Connection.send` with a subject write under the lock of the subject, and
may block there: in the write, and in all that `handle_reconnect` does when the write fails.

* `isInside` are the positions behind `with self.lock`.
* `lockTally` is the tally of one lock: it is taken as often as a position is inside.
* `inside_reach`: in every run a lock is taken if and only if exactly one thread is inside.
-/

namespace GeventSignalR

open Coop Coop.Prog

/-! ## Positions -/

/-- The subject that a call uses. -/
def subjectOf : Activity → Option Nat
  | .next subject _ => some subject
  | .complete subject => some subject
  | .send _ (.subject subject) _ _ _ => some subject
  | _ => none

/-- A call does this before it has the lock. -/
def isBefore : Op → Bool
  | .acquire _ => true
  | .auth .send => true
  | _ => false

/-- The thread is behind `with self.lock`. -/
def isInside (subject : Nat) : Label Op Activity → Bool
  | .ready _ => false
  | .blocked t op => subjectOf t == some subject && !isBefore op

/-- The lock is taken. -/
def isLocked (subject : Nat) (s : State) : Bool :=
  s.subjects[subject]?.any (·.locked)

/-- The lock, and who is inside. -/
def lockTally (subject : Nat) : Tally State Op Activity :=
  .counting (fun s => (isLocked subject s).toNat) (isInside subject)

variable {cfg : Config} {t : Activity} {n m mine : Nat} {s s' : State}
  {P : Multiset (Label Op Activity)}

theorem lockTally_share (l : Label Op Activity) :
    (lockTally n).share l = (isInside n l).toNat := by
  show (if isInside n l then 1 else 0) = _
  cases isInside n l <;> rfl

/-- A call of another subject, or none, is never inside. -/
theorem isInside_of_ne (h : subjectOf t ≠ some n) (op : Op) :
    isInside n (.blocked t op) = false := by
  simp [isInside, h]

/-- What the proof assumes: whoever waits for a lock waits for one that exists. -/
abbrev locking (cfg : Config) (n : Nat) (t : Activity) : HubRely :=
  (hub cfg).rely (.within Streams) (Tallied (lockTally n) 0) t

/-- What the running thread holds of the lock. -/
abbrev Holds (n mine : Nat) : HubInv :=
  Tallied (lockTally n) mine

/-- The lock is free when its `acquire` returns. -/
theorem Hub.possible_acquire (h : (hub cfg).Possible s (.acquire n) (.ok ())) :
    isLocked n s = false := by
  obtain ⟨root, answer, hdecode⟩ := h
  cases answer with
  | done =>
      simp only [hub, decode] at hdecode
      split_ifs at hdecode with hlocked
      simpa [isLocked] using hlocked
  | killed =>
      simp only [hub, decode] at hdecode
      split_ifs at hdecode
      cases hdecode
  | _ => cases hdecode

/-- There is such a subject. -/
theorem Streams.exists_of_acquire (h : Streams s (.blocked t (.acquire n) ::ₘ P)) :
    ∃ object, s.subjects[n]? = some object := by
  have hsome : (targetOf n s).isSome = true := h.head
  obtain ⟨target, htarget⟩ := Option.isSome_iff_exists.mp hsome
  obtain ⟨object, hobject, -⟩ := Option.bind_eq_some_iff.mp htarget
  exact ⟨object, hobject⟩

/-! ## Leaves -/

theorem lock_modify {f : State → State} (hf : ∀ s, (f s).subjects = s.subjects) :
    Keeps (locking cfg n t) (Holds n mine) (modify f : Hub Unit) :=
  Tallied.modify fun s => by
    show (isLocked n (f s)).toNat = (isLocked n s).toNat
    rw [isLocked, hf, isLocked]

theorem lock_perform {op : Op} (hop : (isInside n (.blocked t op)).toNat = mine) :
    Keeps (locking cfg n t) (Holds n mine) (perform op) :=
  Tallied.perform (by rw [lockTally_share, hop])

theorem lock_fork (t' : Activity) : Keeps (locking cfg n t) (Holds n mine) (fork t' : Hub Unit) :=
  Tallied.fork (by rw [lockTally_share]; rfl)

/-- A subject is changed, but not its lock, or it is another one. -/
theorem lock_set {f : Subject → Subject} (hf : m = n → ∀ object, (f object).locked = object.locked) :
    Keeps (locking cfg n t) (Holds n mine) (Subject.set m f) := by
  apply Tallied.modify
  intro s
  show (Option.any _ (s.subjects.modify m f)[n]?).toNat = (isLocked n s).toNat
  rw [List.getElem?_modify, isLocked]
  cases hobject : s.subjects[n]? with
  | none => rfl
  | some object =>
      by_cases hmn : m = n
      · simp [hmn, hf hmn object]
      · simp [hmn]

/-- The thread never enters the section of this subject. -/
theorem lock_offTransport (h : subjectOf t ≠ some n) :
    OffTransport (locking cfg n t) (Holds n 0) where
  congr := fun {s s' P} hI hs => hI.congr (by
    have hsubjects : s'.subjects = s.subjects := congrArg (·.subjects) hs
    show (isLocked n s').toNat = (isLocked n s).toNat
    rw [isLocked, hsubjects, isLocked])
  perform := fun _ => lock_perform (by rw [isInside_of_ne h]; rfl)
  fork := lock_fork

/-! ## The transport, called from inside -/

open WebsocketTransport in
/-- What `send` does, wherever it is called from, as long as its operations do not change on which
side of the lock the thread is. -/
theorem lock_send (hop : ∀ op, isBefore op = false → (isInside n (.blocked t op)).toNat = mine)
    (message : Outgoing) :
    Keeps (locking cfg n t) (Holds n mine) (WebsocketTransport.send cfg message) := by
  have hmodify : ∀ {f : State → State}, (∀ s, (f s).subjects = s.subjects) →
      Keeps (locking cfg n t) (Holds n mine) (modify f : Hub Unit) := lock_modify
  have hperform : ∀ {op : Op}, isBefore op = false →
      Keeps (locking cfg n t) (Holds n mine) (perform op) := fun h => lock_perform (hop _ h)
  have hstate : ∀ value, Keeps (locking cfg n t) (Holds n mine) (setState value) := fun _ =>
    Keeps.bind (hmodify fun _ => rfl) fun _ => Keeps.when fun _ => hmodify fun _ => rfl
  have hhandler : ∀ f, Keeps (locking cfg n t) (Holds n mine) (setHandler f) :=
    fun _ => hmodify fun _ => rfl
  have hstop : Keeps (locking cfg n t) (Holds n mine) stopLost :=
    keeps_stopLost (keeps_stop (hmodify fun _ => rfl) (keeps_closeWs (fun _ => hmodify fun _ => rfl)
      (fun _ => hperform rfl) fun _ => hmodify fun _ => rfl) (hstate _) (hmodify fun _ => rfl))
      (hstate _)
  have hkill : Keeps (locking cfg n t) (Holds n mine) killGreenlet :=
    keeps_killGreenlet (fun _ => keeps_killApp (fun _ => hmodify fun _ => rfl)
      (hmodify fun _ => rfl)) fun _ => hperform rfl
  have hcreate : Keeps (locking cfg n t) (Holds n mine) createApp :=
    Keeps.bind .get fun _ => Keeps.bind (hmodify fun _ => rfl) fun _ =>
      Keeps.bind (hmodify fun _ => rfl) fun _ => Keeps.bind (lock_fork _) fun _ =>
        hmodify fun _ => rfl
  have hstart : Keeps (locking cfg n t) (Holds n mine) (Connection.start cfg) :=
    Connection.keeps_start
      (Connection.keeps_refreshTokenMaybe (hperform rfl) fun _ => hmodify fun _ => rfl)
      (keeps_start (keeps_negotiate (fun _ _ => hperform rfl) fun _ _ => hmodify fun _ => rfl)
        (hstate _) hcreate)
  have hreconnect : Keeps (locking cfg n t) (Holds n mine) (handleReconnect cfg) :=
    keeps_handleReconnect (keeps_reportReconnect (hmodify fun _ => rfl) (hperform rfl))
      (keeps_setReconnecting hhandler)
      (keeps_reconnect hstop hkill (hmodify fun _ => rfl) (hmodify fun _ => rfl) hstart)
      fun _ => keeps_deferReconnect (keeps_nextSleepTime hhandler fun _ => hmodify fun _ => rfl)
        fun _ => lock_fork _
  exact keeps_send
    (keeps_transmit (fun _ => keeps_write (hmodify fun _ => rfl) (hperform rfl)
      fun _ => hmodify fun _ => rfl) (hmodify fun _ => rfl) hhandler)
    fun _ => keeps_connectionLost (hmodify fun _ => rfl) (hstate _) (hperform rfl) hreconnect

/-! ## The section -/

/-- The lock is taken by a thread that finds it free. -/
theorem Holds.take {object : Subject} (h : Holds n 0 s P)
    (hobject : s.subjects[n]? = some object) (hfree : isLocked n s = false)
    (hs : s'.subjects = s.subjects.modify n Subject.lock) : Holds n 1 s' P := by
  refine h.gain (n := 1) ?_
  show (isLocked n s').toNat = (isLocked n s).toNat + 1
  rw [hfree, isLocked, hs, List.getElem?_modify_eq, hobject]
  rfl

/-- Whoever holds the lock gives it back. -/
theorem Holds.release (h : Holds n 1 s P) :
    Holds n 0 { s with subjects := s.subjects.modify n Subject.unlock } P := by
  have hheld : Tallied (lockTally n) (0 + 1) s P := h
  refine hheld.lose ?_
  show (Option.any _ (s.subjects.modify n Subject.unlock)[n]?).toNat + 1 = (isLocked n s).toNat
  have hlocked : isLocked n s = true := by
    have hamount : (isLocked n s).toNat = 1 + (lockTally n).shares P := h
    cases hn : isLocked n s with
    | true => rfl
    | false =>
        rw [hn, Bool.toNat_false] at hamount
        omega
  rw [hlocked, List.getElem?_modify_eq]
  cases s.subjects[n]? <;> rfl

/-- `with self.lock`: inside it the thread holds the lock, and behind it nothing. -/
theorem lock_withLock {p : Hub Unit} (hp : Keeps (locking cfg n t) (Holds n 1) p) :
    Keeps (locking cfg n t) (Holds n 0) (Subject.withLock n p) := by
  -- the section, from where the lock is free
  have hsection : ∀ s P h object, Holds n 0 s P → s.subjects[n]? = some object →
      isLocked n s = false →
        (Subject.takeLock n >>= fun _ => p.finally_ (Subject.set n Subject.unlock)).wp
          (locking cfg n t) (fun _ s P _ => Holds n 0 s P) s P h := by
    intro s P h object hI hobject hfree
    unfold Subject.takeLock Subject.set
    simp only [wp_bind, wp_modify, wp_finally]
    refine wp_mono ?_ (hp _ P h (Holds.take hI hobject hfree rfl))
    rintro (e | _) s P h hI <;> exact hI.release
  intro s P h hI
  unfold Subject.withLock Subject.object
  simp only [wp_bind, wp_get]
  cases hobject : s.subjects[n]? with
  | none => exact hI
  | some object =>
      simp only [Option.elim_some, wp_pure, wp_when]
      have houtside : (isInside n (.blocked t (.acquire n))).toNat = 0 := by
        simp [isInside, isBefore]
      cases hlocked : object.locked with
      | true =>
          rw [if_pos rfl, wp_perform]
          refine ⟨hI.settle (by rw [lockTally_share, houtside]), ?_⟩
          rintro s' P' r hI ⟨hstreams, hpossible⟩
          have hI : Holds n 0 s' P' := hI.resume (by rw [lockTally_share, houtside])
          rcases r with e | _
          · exact hI
          · obtain ⟨object, hobject⟩ := Streams.exists_of_acquire hstreams
            have hnext := hsection s' P' (h ++ [⟨s, .acquire n, .ok ()⟩]) object hI hobject
              (Hub.possible_acquire hpossible)
            rw [wp_bind] at hnext
            exact hnext
      | false =>
          have hfree : isLocked n s = false := by simp [isLocked, hobject, hlocked]
          have hnext := hsection s P h object hI hobject hfree
          rw [wp_bind] at hnext
          simpa using hnext

/-- The section of another subject. -/
theorem lock_withLock_of_ne {p : Hub Unit} (hthread : subjectOf t = some m) (hne : m ≠ n)
    (hp : Keeps (locking cfg n t) (Holds n 0) p) :
    Keeps (locking cfg n t) (Holds n 0) (Subject.withLock m p) := by
  have ht : subjectOf t ≠ some n := by
    rw [hthread]
    simpa using hne
  have hset : ∀ f, Keeps (locking cfg n t) (Holds n 0) (Subject.set m f) :=
    fun _ => lock_set fun h => absurd h hne
  exact Subject.keeps_withLock (lock_perform (by rw [isInside_of_ne ht]; rfl))
    (Subject.keeps_takeLock hset fun _ => lock_modify fun _ => rfl) hset hp

/-- A method of a subject. -/
theorem lock_serve (hthread : subjectOf t = some m) (message : Subject → Message) :
    Keeps (locking cfg n t) (Holds n 0) (Subject.withLock m (Subject.serve cfg m message)) := by
  have hserve : ∀ mine, (∀ op, isBefore op = false → (isInside n (.blocked t op)).toNat = mine) →
      Keeps (locking cfg n t) (Holds n mine) (Subject.serve cfg m message) := fun mine hop =>
    Keeps.bind Subject.keeps_connection fun _ => Keeps.bind Subject.keeps_object fun _ =>
      Keeps.bind (lock_modify fun _ => rfl) fun _ => lock_send hop _
  by_cases hmn : m = n
  · subst hmn
    exact lock_withLock (hserve 1 fun op hop => by simp [isInside, hthread, hop])
  · refine lock_withLock_of_ne hthread hmn (hserve 0 fun op _ => ?_)
    rw [isInside_of_ne (by rw [hthread]; simpa using hmn)]
    rfl

/-! ## Runs -/

theorem lock_runForever (app : Nat) (ht : subjectOf t ≠ some n) :
    Keeps (locking cfg n t) (Holds n 0) (WebSocketApp.runForever cfg app) := by
  have hoff : OffTransport (locking cfg n t) (Holds n 0) := lock_offTransport ht
  have hperform : ∀ op, Keeps (locking cfg n t) (Holds n 0) (perform op) :=
    fun _ => lock_perform (by rw [isInside_of_ne ht]; rfl)
  have hdispatch : Connection.KeepsDispatch (locking cfg n t) (Holds n 0) :=
    { calls := ⟨fun _ => lock_modify fun _ => rfl, fun _ _ => hperform _⟩
      dispatched := fun _ => lock_modify fun _ => rfl
      unregister := fun _ => lock_modify fun _ => rfl
      event := fun _ _ => hperform _
      error := fun _ => hperform _ }
  have hreceive : ∀ raw, Keeps (locking cfg n t) (Holds n 0)
      (WebsocketTransport.receive cfg app raw) := fun _ =>
    hoff.toOffSocket.receive (fun _ => lock_modify fun _ => rfl) fun _ _ => lock_modify fun _ => rfl
  have houtside : (lockTally n).share (.blocked t (.event app)) = 0 := by
    rw [lockTally_share, isInside_of_ne ht]
    rfl
  refine hoff.runForever (hoff.toOffSocket.round (fun _ => hoff.send fun _ => hperform _)
    (fun _ _ _ h _ => h.resume houtside) (fun _ _ h => h.settle houtside) ?_
    (lock_modify fun _ => rfl))
  intro raw s P h hI _
  exact WebSocketApp.keeps_handleMessage (hoff.toOffSocket.callback
    (WebsocketTransport.keeps_onMessage (hreceive raw) fun _ => Connection.keeps_onMessage
      (fun _ => Connection.keeps_dispatch hdispatch) (hoff.toOffSocket.stop _))) s P h
        (hI.resume houtside)

theorem lock_body (t : Activity) : Keeps (locking cfg n t) (Holds n 0) (Hub.body cfg t) := by
  by_cases ht : subjectOf t = some n
  · -- a call of this subject
    cases t with
    | send method arguments onInvocation invocationId uuid =>
        cases arguments with
        | subject subject =>
            apply keeps_once
            apply Connection.keeps_send (lock_modify fun _ => rfl)
            · exact Connection.keeps_refreshTokenMaybe
                (lock_perform (by simp [isInside, isBefore])) fun _ => lock_modify fun _ => rfl
            · rintro items ⟨⟩
            · rintro subject' ⟨⟩
              exact Keeps.bind (lock_set fun _ _ => rfl) fun _ => lock_serve rfl _
        | _ => cases ht
    | next subject item => exact keeps_once (lock_serve rfl _)
    | complete subject => exact keeps_once (lock_serve rfl _)
    | _ => cases ht
  · have hoff : OffTransport (locking cfg n t) (Holds n 0) := lock_offTransport ht
    have hperform : ∀ op, Keeps (locking cfg n t) (Holds n 0) (perform op) :=
      fun _ => lock_perform (by rw [isInside_of_ne ht]; rfl)
    have hsend : ∀ message, Keeps (locking cfg n t) (Holds n 0)
        (WebsocketTransport.send cfg message) := fun _ => hoff.send fun _ => hperform _
    have hmodify : ∀ {f : State → State}, (∀ s, (f s).subjects = s.subjects) →
        Keeps (locking cfg n t) (Holds n 0) (Hub.once (modify f)) :=
      fun hf => keeps_once (lock_modify hf)
    have hregister : ∀ handler,
        Keeps (locking cfg n t) (Holds n 0) (Connection.register handler) := fun _ =>
      Connection.keeps_register (lock_modify fun _ => rfl) (lock_modify fun _ => rfl)
    cases t with
    | start => exact keeps_once (Keeps.bind (lock_modify fun _ => rfl) fun _ => hoff.start)
    | stop =>
        exact keeps_once (Keeps.finally_ (hoff.toOffSocket.stop _) (lock_modify fun _ => rfl))
    | send method arguments onInvocation invocationId uuid =>
        apply keeps_once
        apply Connection.keeps_send (lock_modify fun _ => rfl)
        · exact Connection.keeps_refreshTokenMaybe (hperform _) fun _ => lock_modify fun _ => rfl
        · exact fun _ _ => Connection.keeps_sendList hregister fun _ _ => hsend _
        · rintro subject rfl
          have hne : subject ≠ n := fun h => ht (congrArg some h)
          exact Keeps.bind (lock_set fun h => absurd h hne) fun _ => lock_serve rfl _
    | stream event eventParams uuid =>
        exact keeps_once (Connection.keeps_stream (lock_modify fun _ => rfl)
          (lock_modify fun _ => rfl) hregister fun _ _ => hsend _)
    | on event callback => exact hmodify fun _ => rfl
    | onOpen registered => exact hmodify fun _ => rfl
    | onClose registered => exact hmodify fun _ => rfl
    | onReconnect registered => exact hmodify fun _ => rfl
    | onError registered => exact hmodify fun _ => rfl
    | subscribe object callbacks =>
        exact keeps_once (StreamHandler.keeps_subscribeObject fun _ => lock_modify fun _ => rfl)
    | newSubject uuid =>
        refine keeps_once (Tallied.modify fun s => ?_)
        -- the lock of a new subject is free
        show (Option.any _ (s.subjects ++ [⟨none, uuid, false⟩])[n]?).toNat = (isLocked n s).toNat
        rw [List.getElem?_append, isLocked]
        split_ifs with hlt
        · rfl
        · rw [List.getElem?_eq_none (not_lt.mp hlt)]
          rcases n - s.subjects.length with _ | k <;> rfl
    | next subject item => exact keeps_once (lock_serve rfl _)
    | complete subject => exact keeps_once (lock_serve rfl _)
    | runForever app => exact lock_runForever app ht
    | checkerRun => exact ConnectionStateChecker.keeps_run (hperform _) (hsend _)
    | deferredReconnect sleepTime =>
        exact keeps_once (WebsocketTransport.keeps_deferredReconnect (hperform _) (hsend _)
          hoff.toOffSocket.setHandler (lock_modify fun _ => rfl))
    | clock seconds => exact hmodify fun _ => rfl

/-- The greenlet that runs is none of the business of a stream. -/
theorem Streams.enter (t : Activity) (h : Streams s P) : Streams (Hub.enter t s) P := by
  refine ⟨h.base, fun l hl => ?_⟩
  have hl := h.at_ l hl
  cases l with
  | ready t => trivial
  | blocked t op => cases op <;> exact hl

theorem lock_proof (n : Nat) :
    Proof (hub cfg) (.within Streams) (Holds n 0) fun _ _ _ _ => True := by
  have henter : KeepsEntering (.within Streams) (Holds n 0) :=
    { inv := fun _ _ _ h => h
      start := fun t _ _ _ h => Streams.enter t h
      resume := fun t _ _ _ _ _ h => Streams.enter t h }
  apply Hub.proof henter
  · rfl
  · exact fun _ _ _ h _ _ => h.settle (by rw [lockTally_share]; rfl)
  · intro s P t h _
    have hready : (lockTally n).share (.ready t) = 0 := by
      rw [lockTally_share]
      rfl
    exact ends_of_wp (fun _ _ hI => hI.settle hready) (lock_body t s P [] (h.resume hready))

theorem holds_countP {c : Cond State Exc Op Op.Result Activity}
    {w : World State Exc Op Op.Result Activity} (h : (hub cfg).Reach c w) (n : Nat) :
    (w.labels.countP fun l => isInside n l = true) = (isLocked n w.shared).toNat := by
  have hstreams : (hub cfg).Reach (Cond.any.and (.within Streams)) w :=
    (h.mono c.implies_any).within fun w hw => (streams_proof.sound hw).holds
  have hholds : Holds n 0 w.shared w.labels :=
    ((lock_proof n).sound (hstreams.mono (Cond.and_implies_right _ _))).holds
  exact hholds.countP

/-- In every run the lock of a subject is taken as long as a thread is inside its section, and only
then, and there is never a second thread inside. -/
theorem inside_reach {w : World State Exc Op Op.Result Activity} (h : (hub cfg).Reach .any w)
    (n : Nat) :
    (isLocked n w.shared = true ↔ ∃ l ∈ w.labels, isInside n l = true) ∧
      (w.labels.countP fun l => isInside n l = true) ≤ 1 := by
  have hcount := holds_countP h n
  constructor
  · rw [← Multiset.countP_pos, hcount]
    cases isLocked n w.shared <;> simp
  · rw [hcount]
    exact Bool.toNat_le _

/-- A run with a thread inside. -/
theorem inside_send :
    ∃ w, (hub (.direct none)).Reach .any w ∧ isLocked 0 w.shared = true ∧
      ∃ l ∈ w.labels, isInside 0 l = true := by
  have h := (hub (.direct none)).reach_after [.fork .start, .start 0, .fork (.newSubject "7"),
    .start 2, .fork (.send (.str "Upload") (.subject 0) none none "1"), .start 3] .start rfl
  exact ⟨_, h, rfl, (inside_reach h 0).1.mp rfl⟩

end GeventSignalR
