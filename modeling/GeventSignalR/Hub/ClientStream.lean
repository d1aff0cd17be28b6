import GeventSignalR.Hub.Keeps

/-!
# Client streams

`Connection.send` with a subject, `Subject.next` and `Subject.complete` hand their messages to
the transport while they hold the lock of the subject.  What keeps them in order is the lock,
and that a subject without a `target` refuses.

* `Turn.message` is the message that a call hands to the transport when it is its turn.
* `Follows` relates the turns of a subject and its messages; `Streams` is the invariant of runs.
* `streams_reach`: every turn behind the first `send` hands over its message, in the order of
  the turns, and none before it does.
-/

namespace GeventSignalR

open Coop Coop.Prog

namespace Turn

/-- The message of a call that takes its turn. -/
def message (id : String) (turn : Turn) : Option Message :=
  turn.target.bind fun target =>
    match turn.call with
    | .next _ item => some (.newStreamItem (.str id) .none item)
    | .complete _ => some (.newCompletionClientStream (.str id) .none)
    | .send .. => some (.newInvocationClientStream (.list [.str id]) .none target (.tuple []))
    | _ => none

/-- The turn of a `next` or a `complete`, while the subject has no target. -/
def Refused (turn : Turn) : Prop :=
  turn.target = none ∧ match turn.call with
    | .next .. | .complete _ => True
    | _ => False

/-- The turn of a `send` that finds its own method as the target. -/
def Opens (turn : Turn) : Prop :=
  ∃ method onInvocation invocationId uuid, turn.target = some method ∧
    turn.call = .send method (.subject turn.subject) onInvocation invocationId uuid

end Turn

/-- The turns of a subject. -/
def turnsOf (subject : Nat) (h : History) : List Turn :=
  h.turns.filter fun turn => turn.subject == subject

/-- The messages that a subject handed to the transport. -/
def streamedOf (subject : Nat) (h : History) : List Message :=
  (h.streamed.filter fun entry => entry.1 == subject).map (·.2)

/-- The turns and the messages of a subject. -/
structure Follows (object : Subject) (turns : List Turn) (messages : List Message) : Prop where
  /-- Before the first `send` every turn is refused. -/
  refused : object.target = none → messages = [] ∧ ∀ turn ∈ turns, turn.Refused
  /-- From it on every turn hands over its message. -/
  served : object.target.isSome = true → ∃ early first late, turns = early ++ first :: late ∧
    (∀ turn ∈ early, turn.Refused) ∧ first.Opens ∧
    messages.map some = (first :: late).map (Turn.message object.invocationId)
  /-- Nobody holds the lock before. -/
  locked : object.locked = true → object.target.isSome = true

/-- The same for a subject that may not exist yet. -/
def FollowsIfAny (object : Option Subject) (turns : List Turn) (messages : List Message) : Prop :=
  object.elim (turns = [] ∧ messages = []) fun object => Follows object turns messages

/-- All subjects follow their turns. -/
def Streaming (s : State) : Prop :=
  ∀ n, FollowsIfAny s.subjects[n]? (turnsOf n s.history) (streamedOf n s.history)

/-- The target of a subject. -/
def targetOf (subject : Nat) (s : State) : Option Value :=
  s.subjects[subject]?.bind (·.target)

/-- Who waits for the lock of a subject knows that it has a target. -/
def Waits (s : State) : Label Op Activity → Prop
  | .blocked _ (.acquire subject) => (targetOf subject s).isSome = true
  | _ => True

/-- The invariant. -/
abbrev Streams : HubInv :=
  Pointwise Streaming Waits

variable {cfg : Config} {t : Activity} {s s' : State} {P : Multiset (Label Op Activity)}

/-- What the proof assumes. -/
abbrev streaming (cfg : Config) (t : Activity) : HubRely :=
  Hub.running cfg .any Streams t

/-- The invariant of a thread that runs. -/
structure StreamsInv (t : Activity) (s : State) (P : Multiset (Label Op Activity)) : Prop where
  holds : Streams s P
  current : s.history.current = t

/-! ## A turn -/

namespace Follows

variable {object object' : Subject} {turns : List Turn} {messages : List Message} {turn : Turn}
  {message : Message}

/-- A subject without a target refuses. -/
theorem refuse (h : Follows object turns messages) (htarget : object.target = none)
    (hturn : turn.Refused) (hnone : object'.target = none) (hfree : object'.locked = false) :
    Follows object' (turns ++ [turn]) messages where
  refused := by
    intro _
    obtain ⟨hmessages, hturns⟩ := h.refused htarget
    refine ⟨hmessages, fun other hother => ?_⟩
    rcases List.mem_append.mp hother with hold | hnew
    · exact hturns other hold
    · rw [List.mem_singleton.mp hnew]
      exact hturn
  served := by
    rw [hnone]
    intro hsome
    cases hsome
  locked := by
    rw [hfree]
    intro hlocked
    cases hlocked

/-- A subject with a target hands over the message of the turn. -/
theorem serve (h : Follows object turns messages)
    (hmessage : turn.message object.invocationId = some message)
    (hopens : object.target = none → turn.Opens) (hid : object'.invocationId = object.invocationId)
    (hsome : object'.target.isSome = true) :
    Follows object' (turns ++ [turn]) (messages ++ [message]) where
  refused := by
    intro hnone
    rw [hnone] at hsome
    cases hsome
  served := by
    intro _
    rw [hid]
    cases htarget : object.target with
    | none =>
        -- it is the first one
        obtain ⟨hmessages, hturns⟩ := h.refused htarget
        refine ⟨turns, turn, [], rfl, hturns, hopens htarget, ?_⟩
        simp [hmessages, hmessage]
    | some target =>
        obtain ⟨early, first, late, hturns, hearly, hfirst, hlate⟩ :=
          h.served (by rw [htarget]; rfl)
        refine ⟨early, first, late ++ [turn], ?_, hearly, hfirst, ?_⟩
        · simp [hturns]
        · rw [List.map_append, hlate]
          simp [hmessage]
  locked := fun _ => hsome

/-- A change that is no turn. -/
theorem set (h : Follows object turns messages)
    (hid : object'.invocationId = object.invocationId)
    (htarget : object'.target.isSome = object.target.isSome)
    (hlocked : object'.locked = true → object.locked = true) : Follows object' turns messages where
  refused := by
    intro hnone
    apply h.refused
    rw [hnone] at htarget
    exact Option.isNone_iff_eq_none.mp (by simpa using htarget.symm)
  served := by
    intro hsome
    rw [hid]
    exact h.served (htarget ▸ hsome)
  locked := by
    intro hheld
    rw [htarget]
    exact h.locked (hlocked hheld)

end Follows

/-- A change of one subject, with its turns and messages. -/
theorem Streaming.modify {n : Nat} {f : Subject → Subject} {turns : List Turn}
    {messages : List Message} (h : Streaming s) (hsubjects : s'.subjects = s.subjects.modify n f)
    (hturns : s'.history.turns = s.history.turns ++ turns)
    (hmine : ∀ turn ∈ turns, turn.subject = n)
    (hstreamed : s'.history.streamed = s.history.streamed ++ messages.map fun message => (n, message))
    (hfollows : FollowsIfAny s.subjects[n]? (turnsOf n s.history) (streamedOf n s.history) →
      FollowsIfAny (s.subjects[n]?.map f) (turnsOf n s.history ++ turns)
        (streamedOf n s.history ++ messages)) :
    Streaming s' := by
  intro m
  have hm := h m
  unfold turnsOf streamedOf at *
  rw [hsubjects, hturns, hstreamed, List.getElem?_modify, List.filter_append, List.filter_append,
    List.map_append]
  rw [List.filter_map, List.map_map]
  by_cases hnm : n = m
  · subst hnm
    have hall : turns.filter (fun turn => turn.subject == n) = turns :=
      List.filter_eq_self.mpr fun turn hturn => by simp [hmine turn hturn]
    simpa [hall, Function.comp_def] using hfollows hm
  · have hnone : turns.filter (fun turn => turn.subject == m) = [] :=
      List.filter_eq_nil_iff.mpr fun turn hturn => by simp [hmine turn hturn, hnm]
    have hother : (n == m) = false := by simp [hnm]
    simpa [hnone, hnm, hother, Function.comp_def] using hm

/-! ## Changes of the state -/

/-- What the invariant reads of the state. -/
def streamView (s : State) : List Subject × List Turn × List (Nat × Message) × Activity :=
  (s.subjects, s.history.turns, s.history.streamed, s.history.current)

theorem streams_congr (h : StreamsInv t s P) (hs : streamView s' = streamView s) :
    StreamsInv t s' P := by
  simp only [streamView, Prod.mk.injEq] at hs
  obtain ⟨hsubjects, hturns, hstreamed, hcurrent⟩ := hs
  have hbase : Streaming s' := by
    intro n
    unfold turnsOf streamedOf
    rw [hsubjects, hturns, hstreamed]
    exact h.holds.base n
  have hwaits : ∀ l, Waits s l → Waits s' l := by
    intro l hl
    cases l with
    | ready t => trivial
    | blocked t op =>
        cases op with
        | acquire subject => rw [Waits, targetOf, hsubjects]; exact hl
        | _ => trivial
  exact ⟨⟨hbase, fun l hl => hwaits l (h.holds.at_ l hl)⟩, hcurrent.trans h.current⟩

theorem streams_modify {f : State → State} (hf : ∀ s, streamView (f s) = streamView s) :
    Keeps (streaming cfg t) (StreamsInv t) (modify f : Hub Unit) :=
  Keeps.modify fun s _ h => streams_congr h (hf s)

theorem streams_perform {op : Op} (hop : ∀ subject, op ≠ .acquire subject) :
    Keeps (streaming cfg t) (StreamsInv t) (perform op) := by
  have hwaits : ∀ s, Waits s (.blocked t op) := by
    intro s
    cases op with
    | acquire subject => exact absurd rfl (hop subject)
    | _ => trivial
  exact Keeps.perform (fun s _ h => h.holds.cons (hwaits s)) fun _ _ _ h hres => ⟨h.tail, hres.1⟩

theorem streams_offTransport : OffTransport (streaming cfg t) (StreamsInv t) where
  congr := fun h hs => streams_congr h (congrArg streamView hs :)
  perform := by
    intro op hop
    apply streams_perform
    rintro subject rfl
    cases hop
  fork := fun _ => Keeps.fork fun _ _ h => ⟨h.holds.cons trivial, h.current⟩

/-- A change of one subject that takes no target away. -/
theorem waits_modify {n : Nat} {f : Subject → Subject}
    (hsubjects : s'.subjects = s.subjects.modify n f)
    (htarget : ∀ object, object.target.isSome = true → (f object).target.isSome = true)
    {l : Label Op Activity} (hl : Waits s l) : Waits s' l := by
  cases l with
  | ready t => trivial
  | blocked t op =>
      cases op with
      | acquire m =>
          rw [Waits, targetOf] at hl ⊢
          rw [hsubjects, List.getElem?_modify]
          cases hobject : s.subjects[m]? with
          | none => simp [hobject] at hl
          | some object =>
              rw [hobject] at hl
              by_cases hnm : n = m
              · simpa [hnm] using htarget object hl
              · simpa [hnm] using hl
      | _ => trivial

/-- A turn of a subject, and its messages. -/
theorem streams_turn (n : Nat) (f : Subject → Subject) (turns : List Turn)
    (messages : List Message) (h : StreamsInv t s P)
    (hs : streamView s' = (s.subjects.modify n f, s.history.turns ++ turns,
      s.history.streamed ++ messages.map (fun message => (n, message)), s.history.current))
    (hmine : ∀ turn ∈ turns, turn.subject = n)
    (htarget : ∀ object, object.target.isSome = true → (f object).target.isSome = true)
    (hfollows : FollowsIfAny s.subjects[n]? (turnsOf n s.history) (streamedOf n s.history) →
      FollowsIfAny (s.subjects[n]?.map f) (turnsOf n s.history ++ turns)
        (streamedOf n s.history ++ messages)) : StreamsInv t s' P := by
  simp only [streamView, Prod.mk.injEq] at hs
  obtain ⟨hsubjects, hturns, hstreamed, hcurrent⟩ := hs
  have hbase : Streaming s' := h.holds.base.modify hsubjects hturns hmine hstreamed hfollows
  have hwaits : ∀ l ∈ P, Waits s' l :=
    fun l hl => waits_modify hsubjects htarget (h.holds.at_ l hl)
  exact ⟨⟨hbase, hwaits⟩, hcurrent.trans h.current⟩

/-- A change of a subject between its turns. -/
theorem streams_set {n : Nat} {f : Subject → Subject}
    (hf : ∀ object, (f object).invocationId = object.invocationId ∧
      (f object).target.isSome = object.target.isSome ∧
      ((f object).locked = true → object.locked = true)) :
    Keeps (streaming cfg t) (StreamsInv t) (Subject.set n f) := by
  apply Keeps.modify
  intro s P h
  apply streams_turn n f [] [] h
  · simp [streamView]
  · simp
  · intro object hsome
    rw [(hf object).2.1]
    exact hsome
  · intro hfollows
    cases hobject : s.subjects[n]? with
    | none =>
        rw [hobject] at hfollows
        simpa [FollowsIfAny] using hfollows
    | some object =>
        rw [hobject] at hfollows
        obtain ⟨hid, htarget, hlocked⟩ := hf object
        have hset : Follows (f object) (turnsOf n s.history) (streamedOf n s.history) :=
          Follows.set hfollows hid htarget hlocked
        simpa [FollowsIfAny] using hset

theorem streams_send (message : Outgoing) :
    Keeps (streaming cfg t) (StreamsInv t) (WebsocketTransport.send cfg message) :=
  streams_offTransport.send fun _ => streams_perform fun _ => by simp

/-! ## The methods of a subject -/

namespace Subject

/-- What a method does while it holds the lock. -/
def serve (cfg : Config) (subject : Nat) (message : Subject → Message) : Hub Unit := do
  connection subject
  let object ← object subject
  send cfg subject (message object)

end Subject

/-- A turn while the subject has no target. -/
theorem streams_refuse {n : Nat} {message : Subject → Message} {object : Subject}
    {h : List (Logged State Exc Op Op.Result)} (hinv : StreamsInv t s P)
    (hobject : s.subjects[n]? = some object) (htarget : object.target = none)
    (hrefused : (Turn.mk n t none).Refused) :
    (Subject.takeLock n >>= fun _ => (Subject.serve cfg n message).finally_
      (Subject.set n Subject.unlock)).wp (streaming cfg t) (fun _ s P _ => StreamsInv t s P) s P h := by
  have hend : StreamsInv t { s with
      subjects := s.subjects.modify n (Subject.unlock ∘ Subject.lock)
      history := { s.history with turns := s.history.turns ++ [⟨n, t, none⟩] } } P := by
    apply streams_turn n (Subject.unlock ∘ Subject.lock) [⟨n, t, none⟩] [] hinv
    · simp [streamView]
    · simp
    · exact fun _ hsome => hsome
    · intro hfollows
      rw [hobject] at hfollows ⊢
      have hsame : Follows (Subject.unlock (Subject.lock object))
          (turnsOf n s.history ++ [⟨n, t, none⟩]) (streamedOf n s.history) :=
        Follows.refuse hfollows htarget hrefused htarget rfl
      simpa [FollowsIfAny] using hsame
  have hlocked : (s.subjects.modify n Subject.lock)[n]? = some (Subject.lock object) := by
    simp [hobject]
  unfold Subject.takeLock Subject.serve Subject.connection Subject.object Subject.set
  simp only [wp_bind, wp_modify, wp_finally, wp_get]
  rw [hlocked]
  simp only [Option.elim_some, wp_pure, wp_when]
  have hnone : (Subject.lock object).target.isNone = true := by simp [Subject.lock, htarget]
  rw [hnone]
  simp only [if_true, wp_raise]
  refine streams_congr hend ?_
  simp only [streamView, List.modify_modify_eq, Option.bind_some, hinv.current]
  rw [show (Subject.lock object).target = none from htarget]

/-- A turn behind the target was set, which may have happened since the last stretch. -/
theorem streams_serve {n : Nat} (f : Subject → Subject) (message : Subject → Message)
    {object : Subject} {target : Value} {h : List (Logged State Exc Op Op.Result)}
    (hinv : StreamsInv t s P)
    (hs : streamView s' = (s.subjects.modify n f, s.history.turns, s.history.streamed,
      s.history.current))
    (hf : ∀ object, (f object).invocationId = object.invocationId ∧
      (object.target.isSome = true → (f object).target.isSome = true))
    (hobject : s.subjects[n]? = some object) (htarget : (f object).target = some target)
    (hopens : object.target = none → (Turn.mk n t (some target)).Opens)
    (hmessage : (Turn.mk n t (some target)).message object.invocationId =
      some (message (Subject.lock (f object)))) :
    (Subject.takeLock n >>= fun _ => (Subject.serve cfg n message).finally_
      (Subject.set n Subject.unlock)).wp (streaming cfg t) (fun _ s P _ => StreamsInv t s P) s' P
        h := by
  simp only [streamView, Prod.mk.injEq] at hs
  obtain ⟨hsubjects, hturns, hstreamed, hcurrent⟩ := hs
  -- the turn and its message are recorded together, before the write gives way
  have hstate : StreamsInv t { s' with
      subjects := s.subjects.modify n (Subject.lock ∘ f)
      history := { s'.history with
        turns := s.history.turns ++ [⟨n, t, some target⟩]
        streamed := s.history.streamed ++ [(n, message (Subject.lock (f object)))] } } P := by
    apply streams_turn n (Subject.lock ∘ f) [⟨n, t, some target⟩]
      [message (Subject.lock (f object))] hinv
    · simp [streamView, hcurrent]
    · simp
    · exact fun object hsome => (hf object).2 hsome
    · intro hfollows
      rw [hobject] at hfollows ⊢
      have hserved : Follows (Subject.lock (f object)) (turnsOf n s.history ++ [⟨n, t, some target⟩])
          (streamedOf n s.history ++ [message (Subject.lock (f object))]) :=
        Follows.serve hfollows hmessage hopens (hf object).1 (by simp [Subject.lock, htarget])
      simpa [FollowsIfAny] using hserved
  have hlocked : (s'.subjects.modify n Subject.lock)[n]? = some (Subject.lock (f object)) := by
    simp [hsubjects, hobject]
  have hunlock : Keeps (streaming cfg t) (StreamsInv t) (Subject.set n Subject.unlock) :=
    streams_set fun _ => ⟨rfl, rfl, fun hheld => by cases hheld⟩
  unfold Subject.takeLock Subject.serve Subject.connection Subject.object Subject.send record
  simp only [wp_bind, wp_finally, wp_get]
  unfold Subject.set at hunlock ⊢
  simp only [wp_modify]
  rw [hlocked]
  have hsome : (Subject.lock (f object)).target.isNone = false := by simp [Subject.lock, htarget]
  simp only [Option.elim_some, wp_pure, wp_when, hsome, Bool.false_eq_true, if_false, hlocked]
  refine wp_mono ?_ (streams_send _ _ P h (streams_congr hstate ?_))
  · rintro (e | _) s P h hI
    · exact hunlock.apply hI
    · exact hunlock.apply hI
  · simp only [streamView, List.modify_modify_eq, Option.bind_some, hsubjects, hturns, hstreamed,
      hcurrent, hinv.current]
    rw [show (Subject.lock (f object)).target = some target from htarget]

/-- A method of a subject that has a target, or may be refused. -/
theorem streams_withLock {n : Nat} (message : Subject → Message)
    (hmessage : ∀ object target, object.target = some target →
      (Turn.mk n t (some target)).message object.invocationId =
        some (message (Subject.lock object)))
    {h : List (Logged State Exc Op Op.Result)} (hinv : StreamsInv t s P)
    (hrefused : ∀ object, s.subjects[n]? = some object → object.target = none →
      (Turn.mk n t none).Refused) :
    (Subject.withLock n (Subject.serve cfg n message)).wp (streaming cfg t)
      (fun _ s P _ => StreamsInv t s P) s P h := by
  -- the turn, once the lock is free
  have hturn : ∀ s P h object, StreamsInv t s P → s.subjects[n]? = some object →
      (object.target = none → (Turn.mk n t none).Refused) →
        (Subject.takeLock n >>= fun _ => (Subject.serve cfg n message).finally_
          (Subject.set n Subject.unlock)).wp (streaming cfg t)
            (fun _ s P _ => StreamsInv t s P) s P h := by
    intro s P h object hinv hobject hrefused
    cases htarget : object.target with
    | none => exact streams_refuse hinv hobject htarget (hrefused htarget)
    | some target =>
        apply streams_serve id message hinv
        · simp [streamView]
        · exact fun _ => ⟨rfl, fun hsome => hsome⟩
        · exact hobject
        · exact htarget
        · intro hnone
          rw [htarget] at hnone
          cases hnone
        · exact hmessage object target htarget
  unfold Subject.withLock Subject.object
  simp only [wp_bind, wp_get]
  cases hobject : s.subjects[n]? with
  | none => exact hinv
  | some object =>
      simp only [Option.elim_some, wp_pure, wp_when]
      split_ifs with hlocked
      · rw [wp_perform]
        constructor
        · have hfollows : Follows object (turnsOf n s.history) (streamedOf n s.history) := by
            have hn := hinv.holds.base n
            rw [hobject] at hn
            exact hn
          have hsome : (targetOf n s).isSome = true := by
            simpa [targetOf, hobject] using hfollows.locked hlocked
          exact hinv.holds.cons hsome
        · intro s' P' r hheld hres
          rcases r with e | _
          · exact ⟨hheld.tail, hres.1⟩
          · -- whoever waits for the lock finds a target behind it
            have hsome : (targetOf n s').isSome = true := hheld.head
            obtain ⟨target, htarget⟩ := Option.isSome_iff_exists.mp hsome
            obtain ⟨object, hobject, htarget⟩ := Option.bind_eq_some_iff.mp htarget
            have hagain := hturn s' P' (h ++ [⟨s, .acquire n, .ok ()⟩]) object
              ⟨hheld.tail, hres.1⟩ hobject (fun hnone => by rw [hnone] at htarget; cases htarget)
            rw [wp_bind] at hagain
            exact hagain
      · have hnow := hturn s P h object hinv hobject (hrefused object hobject)
        rw [wp_bind] at hnow
        exact hnow

theorem streams_next (n : Nat) (item : Value) :
    Keeps (streaming cfg (.next n item)) (StreamsInv (.next n item)) (Subject.next cfg n item) :=
  fun _ _ _ hinv => streams_withLock
    (fun object => .newStreamItem (.str object.invocationId) .none item)
    (fun _ _ _ => rfl) hinv fun _ _ _ => ⟨rfl, trivial⟩

theorem streams_complete (n : Nat) :
    Keeps (streaming cfg (.complete n)) (StreamsInv (.complete n)) (Subject.complete cfg n) :=
  fun _ _ _ hinv => streams_withLock
    (fun object => .newCompletionClientStream (.str object.invocationId) .none)
    (fun _ _ _ => rfl) hinv fun _ _ _ => ⟨rfl, trivial⟩

/-- The first `send` takes the lock at once; a later one sets another target. -/
theorem streams_sendSubject (method : Value) (n : Nat) (onInvocation : Option Nat)
    (invocationId : Option String) (uuid : String) :
    Keeps (streaming cfg (.send method (.subject n) onInvocation invocationId uuid))
      (StreamsInv (.send method (.subject n) onInvocation invocationId uuid))
      (Connection.sendSubject cfg method n) := by
  intro s P h hinv
  let aim : Subject → Subject := fun object => { object with target := some method }
  let message : Subject → Message := fun object => .newInvocationClientStream
    (.list [.str object.invocationId]) .none (object.target.getD .none) (.tuple [])
  show (Subject.set n aim >>= fun _ => Subject.withLock n (Subject.serve cfg n message)).wp _ _ _ _ _
  rw [wp_bind]
  unfold Subject.set
  rw [wp_modify]
  -- without a target the lock is free, so the first `send` has no chance to wait
  by_cases hfirst : ∃ object, s.subjects[n]? = some object ∧ object.target = none
  · obtain ⟨object, hobject, hnone⟩ := hfirst
    have hfollows : Follows object (turnsOf n s.history) (streamedOf n s.history) := by
      have hn := hinv.holds.base n
      rw [hobject] at hn
      exact hn
    have hfree : object.locked = false := by
      by_contra hlocked
      have hsome := hfollows.locked (by simpa using hlocked)
      rw [hnone] at hsome
      cases hsome
    have haimed : (s.subjects.modify n aim)[n]? = some (aim object) := by simp [hobject]
    have hserve : (Subject.takeLock n >>= fun _ => (Subject.serve cfg n message).finally_
        (Subject.set n Subject.unlock)).wp
          (streaming cfg (.send method (.subject n) onInvocation invocationId uuid))
          (fun _ s P _ =>
            StreamsInv (.send method (.subject n) onInvocation invocationId uuid) s P)
          { s with subjects := s.subjects.modify n aim } P h := by
      apply streams_serve aim message hinv rfl (fun _ => ⟨rfl, fun _ => rfl⟩) hobject
      · rfl
      · exact fun _ => ⟨method, onInvocation, invocationId, uuid, rfl, rfl⟩
      · rfl
    unfold Subject.withLock Subject.object
    simp only [wp_bind, wp_get, haimed, Option.elim_some, wp_pure, wp_when]
    rw [show (aim object).locked = false from hfree]
    rw [wp_bind] at hserve
    exact hserve
  · apply streams_withLock
    · intro object target htarget
      simp [Turn.message, message, Subject.lock, htarget]
    · apply streams_turn n aim [] [] hinv
      · simp [streamView]
      · simp
      · exact fun _ _ => rfl
      · intro hfollows
        cases hobject : s.subjects[n]? with
        | none =>
            rw [hobject] at hfollows
            simpa [FollowsIfAny] using hfollows
        | some object =>
            rw [hobject] at hfollows
            have hsome : object.target.isSome = true := by
              by_contra hnone
              exact hfirst ⟨object, hobject, by simpa using hnone⟩
            have hset : Follows (aim object) (turnsOf n s.history) (streamedOf n s.history) :=
              Follows.set hfollows rfl hsome.symm fun hlocked => hlocked
            simpa [FollowsIfAny] using hset
    · intro object hobject hnone
      rw [List.getElem?_modify_eq] at hobject
      obtain ⟨before, -, rfl⟩ := Option.map_eq_some_iff.mp hobject
      cases hnone

/-! ## Runs -/

theorem streams_runForever (app : Nat) :
    Keeps (streaming cfg t) (StreamsInv t) (WebSocketApp.runForever cfg app) := by
  have hoff : OffTransport (streaming cfg t) (StreamsInv t) := streams_offTransport
  have hdispatch : Connection.KeepsDispatch (streaming cfg t) (StreamsInv t) :=
    { calls := ⟨fun _ => streams_modify fun _ => rfl, fun _ _ => hoff.perform rfl⟩
      dispatched := fun _ => streams_modify fun _ => rfl
      unregister := fun _ => streams_modify fun _ => rfl
      event := fun _ _ => hoff.perform rfl
      error := fun _ => hoff.perform rfl }
  have hreceive : ∀ raw, Keeps (streaming cfg t) (StreamsInv t)
      (WebsocketTransport.receive cfg app raw) := by
    refine fun raw => hoff.toOffSocket.receive (fun _ => streams_modify fun _ => rfl) fun f hf => ?_
    apply streams_modify
    intro s
    have hturns : (f s.history).turns = s.history.turns := (congrArg (·.turns) (hf s.history) :)
    have hstreamed : (f s.history).streamed = s.history.streamed :=
      (congrArg (·.streamed) (hf s.history) :)
    have hcurrent : (f s.history).current = s.history.current :=
      (congrArg (·.current) (hf s.history) :)
    simp only [streamView, hturns, hstreamed, hcurrent]
  refine hoff.runForever (hoff.toOffSocket.round streams_send (fun _ _ _ h hres => ⟨h.tail, hres.1⟩)
    (fun _ _ h => h.holds.cons trivial) ?_ (hoff.modify fun _ => rfl))
  intro raw s P h hinv hres
  exact WebSocketApp.keeps_handleMessage (hoff.toOffSocket.callback
    (WebsocketTransport.keeps_onMessage (hreceive raw) fun _ => Connection.keeps_onMessage
      (fun _ => Connection.keeps_dispatch hdispatch) (hoff.toOffSocket.stop _))) s P h
        ⟨hinv.tail, hres.1⟩

/-- A new subject has neither turns nor messages. -/
theorem streams_newSubject (uuid : String) :
    Keeps (streaming cfg t) (StreamsInv t)
      (modify fun s => { s with subjects := s.subjects ++ [⟨none, uuid, false⟩] } : Hub Unit) := by
  apply Keeps.modify
  intro s P h
  have hbase : Streaming { s with subjects := s.subjects ++ [⟨none, uuid, false⟩] } := by
    intro n
    have hn := h.holds.base n
    show FollowsIfAny (s.subjects ++ [⟨none, uuid, false⟩])[n]? _ _
    -- the new `Subject` has no target yet, and nothing was streamed under its number
    rcases lt_trichotomy n s.subjects.length with hlt | heq | hgt
    · rw [List.getElem?_append_left hlt]
      exact hn
    · rw [List.getElem?_eq_none (by omega)] at hn
      obtain ⟨hturns, hstreamed⟩ := hn
      rw [heq, List.getElem?_concat_length, ← heq, hturns, hstreamed]
      show Follows ⟨none, uuid, false⟩ [] []
      constructor
      · exact fun _ => ⟨rfl, fun turn hturn => by cases hturn⟩
      · exact fun hsome => by cases hsome
      · exact fun hlocked => by cases hlocked
    · rw [List.getElem?_eq_none (by omega)] at hn
      rw [List.getElem?_eq_none (by simp; omega)]
      exact hn
  have hwaits : ∀ l, Waits s l → Waits { s with subjects := s.subjects ++ [⟨none, uuid, false⟩] } l := by
    intro l hl
    cases l with
    | ready t => trivial
    | blocked t op =>
        cases op with
        | acquire n =>
            rw [Waits, targetOf] at hl ⊢
            cases hobject : s.subjects[n]? with
            | none => simp [hobject] at hl
            | some object =>
                have hlt : n < s.subjects.length := (List.getElem?_eq_some_iff.mp hobject).1
                rw [List.getElem?_append_left hlt]
                exact hl
        | _ => trivial
  exact ⟨⟨hbase, fun l hl => hwaits l (h.holds.at_ l hl)⟩, h.current⟩

theorem streams_body (t : Activity) : Keeps (streaming cfg t) (StreamsInv t) (Hub.body cfg t) := by
  have hoff : OffTransport (streaming cfg t) (StreamsInv t) := streams_offTransport
  have hmodify : ∀ {f}, (∀ s, streamView (f s) = streamView s) →
      Keeps (streaming cfg t) (StreamsInv t) (Hub.once (modify f)) :=
    fun hf => keeps_once (streams_modify hf)
  have hregister : ∀ handler, Keeps (streaming cfg t) (StreamsInv t) (Connection.register handler) :=
    fun _ => Connection.keeps_register (streams_modify fun _ => rfl) (streams_modify fun _ => rfl)
  cases t with
  | start => exact keeps_once (Keeps.bind (streams_modify fun _ => rfl) fun _ => hoff.start)
  | stop =>
      exact keeps_once (Keeps.finally_ (hoff.toOffSocket.stop _) (streams_modify fun _ => rfl))
  | send method arguments onInvocation invocationId uuid =>
      apply keeps_once
      apply Connection.keeps_send (streams_modify fun _ => rfl)
      · exact Connection.keeps_refreshTokenMaybe (hoff.perform rfl)
          fun _ => streams_modify fun _ => rfl
      · exact fun _ _ => Connection.keeps_sendList hregister fun _ _ => streams_send _
      · rintro subject rfl
        exact streams_sendSubject method subject onInvocation invocationId uuid
  | stream event eventParams uuid =>
      exact keeps_once (Connection.keeps_stream (streams_modify fun _ => rfl)
        (streams_modify fun _ => rfl) hregister fun _ _ => streams_send _)
  | on event callback => exact hmodify fun _ => rfl
  | onOpen registered => exact hmodify fun _ => rfl
  | onClose registered => exact hmodify fun _ => rfl
  | onReconnect registered => exact hmodify fun _ => rfl
  | onError registered => exact hmodify fun _ => rfl
  | subscribe object callbacks =>
      exact keeps_once (StreamHandler.keeps_subscribeObject fun _ => streams_modify fun _ => rfl)
  | newSubject uuid => exact keeps_once (streams_newSubject uuid)
  | next subject item => exact keeps_once (streams_next subject item)
  | complete subject => exact keeps_once (streams_complete subject)
  | runForever app => exact streams_runForever app
  | checkerRun => exact ConnectionStateChecker.keeps_run (hoff.perform rfl) (streams_send _)
  | deferredReconnect sleepTime =>
      exact keeps_once (WebsocketTransport.keeps_deferredReconnect (hoff.perform rfl)
        (streams_send _) hoff.toOffSocket.setHandler (streams_modify fun _ => rfl))
  | clock seconds => exact hmodify fun _ => rfl

theorem streams_proof : Proof (hub cfg) .any Streams fun _ _ _ _ => True := by
  have henter : KeepsEntering .any Streams :=
    { inv := by
        rintro t s P ⟨hbase, hat⟩
        exact ⟨hbase, fun l hl => by
          have hl := hat l hl
          cases l with
          | ready t => trivial
          | blocked t op => cases op <;> exact hl⟩
      start := fun _ _ _ _ h => h
      resume := fun _ _ _ _ _ _ h => h }
  apply Hub.proof_running henter
  · constructor
    · intro n
      simp [FollowsIfAny, State.new, History.new, turnsOf, streamedOf]
    · intro l hl
      simp at hl
  · exact fun s P t h _ _ => h.cons trivial
  · intro s P t h _ hcurrent
    exact ends_of_wp (fun _ _ hI => hI.cons trivial)
      (wp_mono (fun _ _ _ _ hI => hI.holds) (streams_body t s P [] ⟨h.tail, hcurrent⟩))

/-- The call raises at once, and hands nothing over. -/
def Refuses (p : Hub Unit) (s : State) : Prop :=
  ∃ s', p.run s = (s', [], .finished (.error (.valueError Subject.errorMessage))) ∧
    s'.history.streamed = s.history.streamed

/-- A free subject without a target refuses. -/
theorem refuses_withLock {n : Nat} {message : Subject → Message} {object : Subject}
    (hobject : s.subjects[n]? = some object) (hnone : object.target = none)
    (hfree : object.locked = false) :
    Refuses (Subject.withLock n (Subject.serve cfg n message)) s := by
  -- nothing in it blocks
  let R : HubRely := ⟨.stop, fun _ _ => False, fun _ _ _ _ => True⟩
  have hwp : (Subject.withLock n (Subject.serve cfg n message)).wp R (fun r s' P _ =>
      r = .error (.valueError Subject.errorMessage) ∧
        s'.history.streamed = s.history.streamed ∧ P = 0) s 0 [] := by
    have hlocked : (s.subjects.modify n Subject.lock)[n]? = some (Subject.lock object) := by
      simp [hobject]
    unfold Subject.withLock Subject.takeLock Subject.serve Subject.connection Subject.object
      Subject.set
    simp only [wp_bind, wp_modify, wp_finally, wp_get, hobject, Option.elim_some, wp_pure, wp_when,
      hfree, Bool.false_eq_true, if_false]
    rw [hlocked]
    have htarget : (Subject.lock object).target.isNone = true := by simp [Subject.lock, hnone]
    simp only [Option.elim_some, wp_pure, htarget, if_true, wp_raise]
    exact ⟨trivial, trivial, trivial⟩
  have hrun := stretch_run _ hwp
  revert hrun
  unfold Refuses
  rcases (Subject.withLock n (Subject.serve cfg n message)).run s with ⟨s', ts, r | ⟨op, k⟩⟩
  · rintro ⟨rfl, hstreamed, hthreads⟩
    cases ts with
    | nil => exact ⟨s', rfl, hstreamed⟩
    | cons t ts => simp at hthreads
  · rintro ⟨hblocked, -⟩
    exact hblocked.elim

/-- Whatever calls of `send`, `next` and `complete` a subject gets, those that take its lock
before a `send` are refused; behind it every call hands over its message, in the order in
which they take the lock.  The code knows of no other order. -/
theorem streams_reach {w : World State Exc Op Op.Result Activity} (h : (hub cfg).Reach .any w)
    {n : Nat} {object : Subject} (hobject : w.shared.subjects[n]? = some object) :
    ∃ early late, turnsOf n w.shared.history = early ++ late ∧
      (∀ turn ∈ early, turn.Refused) ∧
      (∀ first, late.head? = some first → first.Opens) ∧
      (streamedOf n w.shared.history).map some = late.map (Turn.message object.invocationId) ∧
      (late = [] → (∀ item, Refuses (Subject.next cfg n item) w.shared) ∧
        Refuses (Subject.complete cfg n) w.shared) := by
  have hfollows : Follows object (turnsOf n w.shared.history) (streamedOf n w.shared.history) := by
    have hn := (streams_proof.sound h).holds.base n
    rw [hobject] at hn
    exact hn
  cases htarget : object.target with
  | none =>
      obtain ⟨hmessages, hturns⟩ := hfollows.refused htarget
      have hfree : object.locked = false := by
        by_contra hlocked
        have hsome := hfollows.locked (by simpa using hlocked)
        rw [htarget] at hsome
        cases hsome
      refine ⟨turnsOf n w.shared.history, [], by simp, hturns, by simp, by simp [hmessages], ?_⟩
      intro _
      exact ⟨fun _ => refuses_withLock hobject htarget hfree,
        refuses_withLock hobject htarget hfree⟩
  | some target =>
      obtain ⟨early, first, late, hturns, hearly, hfirst, hlate⟩ :=
        hfollows.served (by rw [htarget]; rfl)
      refine ⟨early, first :: late, hturns, hearly, ?_, hlate, fun hnil => by cases hnil⟩
      intro turn hhead
      cases hhead
      exact hfirst

/-- An item behind the completion of its stream: all three messages go out, and no call
raises. -/
theorem item_behind_completion :
    ∃ w, (hub (.direct none)).Reach .any w ∧ streamedOf 0 w.shared.history =
        [.newInvocationClientStream (.list [.str "7"]) .none (.str "Upload") (.tuple []),
          .newCompletionClientStream (.str "7") .none,
          .newStreamItem (.str "7") .none (.int 1)] ∧
      w.ended.map (·.result) = List.replicate 5 (.ok false) := by
  have h := (hub (.direct none)).reach_after [.fork .start, .start 0, .fork (.newSubject "7"),
    .start 2, .fork (.send (.str "Upload") (.subject 0) none none "1"), .start 3, .answer 3 .done,
    .fork (.complete 0), .start 4, .answer 4 .done, .fork (.next 0 (.int 1)), .start 5,
    .answer 5 .done] .start rfl
  exact ⟨_, h, rfl, rfl⟩

/-- A run with a `next` before the `send` and one behind it. -/
theorem streams_upload :
    ∃ w, (hub (.direct none)).Reach .any w ∧ (turnsOf 0 w.shared.history).length = 3 ∧
      (streamedOf 0 w.shared.history).length = 2 ∧
      ∃ early late, turnsOf 0 w.shared.history = early ++ late ∧
        (streamedOf 0 w.shared.history).map some = late.map (Turn.message "7") := by
  have h := (hub (.direct none)).reach_after [.fork .start, .start 0, .fork (.newSubject "7"),
    .start 2, .fork (.next 0 (.int 0)), .start 3,
    .fork (.send (.str "Upload") (.subject 0) none none "1"), .start 4, .answer 4 .done,
    .fork (.next 0 (.int 1)), .start 5, .answer 5 .done] .start rfl
  obtain ⟨early, late, hturns, -, -, hmessages, -⟩ := streams_reach (n := 0) h rfl
  exact ⟨_, h, rfl, rfl, early, late, hturns, hmessages⟩

end GeventSignalR
