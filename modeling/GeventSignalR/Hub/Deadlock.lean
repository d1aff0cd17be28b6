import GeventSignalR.Coop.Greenlets
import GeventSignalR.Hub.Shape
import GeventSignalR.Hub.SubjectLock

/-!
# Greenlets that wait for each other

Whatever a greenlet waits for can happen: a write ends, a request is answered, a user function
returns, a websocket says something.  The exception is the lock of a subject that another call
holds, and the call that holds it may stand below one that waits.

* `WaitsFor` relates a greenlet that waits for a lock to the one inside the section.
* `goes_on`: as long as nobody waits in a circle, some greenlet can go on.
* `deadlocked`: greenlets that wait for each other wait forever.  The lock is not reentrant, so that
  one greenlet is enough.
-/

namespace GeventSignalR

open Coop Coop.Prog

/-- The greenlets of a connection. -/
abbrev HubWorld : Type :=
  World State Exc Op Op.Result Activity

/-- The greenlet waits for the lock of a subject. -/
def WaitsLock (w : HubWorld) (g n : Nat) : Prop :=
  ∃ root t history state k rest,
    w.pool[g]? = some ⟨root, .waiting t history state (.acquire n) k :: rest⟩

/-- The greenlet is inside the section of a subject, or calls a function from there. -/
def HoldsLock (w : HubWorld) (g n : Nat) : Prop :=
  ∃ greenlet, w.pool[g]? = some greenlet ∧ ∃ frame ∈ greenlet.frames,
    isInside n frame.label = true

/-- One greenlet waits for another one. -/
def WaitsFor (w : HubWorld) (g g' : Nat) : Prop :=
  ∃ n, WaitsLock w g n ∧ HoldsLock w g' n

/-- The greenlet has something to do. -/
def Busy (w : HubWorld) (g : Nat) : Prop :=
  ∃ root frame rest, w.pool[g]? = some ⟨root, frame :: rest⟩

/-- It does a part of it. -/
def CanGoOn (cfg : Config) (w : HubWorld) (g : Nat) : Prop :=
  ∃ w', (hub cfg).step w (.start g) = some w' ∨
    ∃ answer, (hub cfg).step w (.answer g answer) = some w'

variable {cfg : Config} {w w' : HubWorld} {g n : Nat}

/-! ## Going on -/

/-- An answer lets the greenlet go on. -/
theorem canGoOn_of_decode {root t : Activity} {history : List (Logged State Exc Op Op.Result)}
    {state : State} {op : Op} {k : Except Exc op.Result → Hub Bool}
    {rest : List (Frame State Exc Op Op.Result Activity)}
    (hg : w.pool[g]? = some ⟨root, .waiting t history state op k :: rest⟩) (answer : Answer)
    (result : Except Exc op.Result) (hdecode : Hub.decode w.shared root op answer = some result) :
    CanGoOn cfg w g := by
  refine ⟨w.resume g root t rest (history ++ [⟨state, op, result⟩]) (k result), .inr ⟨answer, ?_⟩⟩
  have hresult : (hub cfg).decode w.shared root op answer = some result := hdecode
  simp only [System.step, hg, hresult]

/-- A lock that is taken is held by somebody. -/
theorem exists_holder {c : Cond State Exc Op Op.Result Activity} (h : (hub cfg).Reach c w)
    (hlocked : isLocked n w.shared = true) : ∃ g, HoldsLock w g n := by
  have hcount := holds_countP h n
  rw [hlocked] at hcount
  obtain ⟨l, hl, hinside⟩ := Multiset.countP_pos.mp (show 0 < _ by rw [hcount]; decide)
  obtain ⟨g, greenlet, hg, frame, hframe, hlabel⟩ := World.mem_labelsOf_iff.mp hl
  exact ⟨g, greenlet, hg, frame, hframe, by rw [hlabel]; exact hinside⟩

/-- A greenlet goes on, or waits for one that holds a lock. -/
theorem canGoOn_or_waits {c : Cond State Exc Op Op.Result Activity} (h : (hub cfg).Reach c w)
    (hbusy : Busy w g) : CanGoOn cfg w g ∨ ∃ g', WaitsFor w g g' := by
  obtain ⟨root, frame, rest, hg⟩ := hbusy
  cases frame with
  | ready t =>
      refine .inl ⟨w.resume g root t rest [] ((hub cfg).body t), .inl ?_⟩
      simp only [System.step, hg]
  | waiting t history state op k =>
      have hmem : Label.blocked t op ∈ w.labels := World.mem_labels hg List.mem_cons_self
      cases op with
      | wsSend app message =>
          exact .inl (canGoOn_of_decode hg .done _ rfl)
      | wsClose app site => exact .inl (canGoOn_of_decode hg .done _ rfl)
      | post url headers =>
          exact .inl (canGoOn_of_decode hg (.raised .osError) _ rfl)
      | kill app =>
          by_cases hroot : root = .runForever app
          · -- it kills itself, and dies
            subst hroot
            obtain ⟨a, ha, hkilled⟩ := ((shaped_reach h).at_ _ hmem).kill app rfl
            refine .inl (canGoOn_of_decode hg .killed (.error .greenletExit) ?_)
            simp [Hub.decode, Hub.isKilled, ha, hkilled]
          · refine .inl (canGoOn_of_decode hg .done (.ok ()) ?_)
            cases root with
            | runForever other =>
                have hne : other ≠ app := fun h => hroot (congrArg Activity.runForever h)
                simp [Hub.decode, hne]
            | _ => rfl
      | sleep seconds => exact .inl (canGoOn_of_decode hg .done _ rfl)
      | auth site => exact .inl (canGoOn_of_decode hg (.token none) _ rfl)
      | callback callback => exact .inl (canGoOn_of_decode hg .done _ rfl)
      | acquire n =>
          cases hlocked : isLocked n w.shared with
          | true =>
              obtain ⟨g', hholds⟩ := exists_holder h hlocked
              exact .inr ⟨g', n, ⟨root, t, history, state, k, rest, hg⟩, hholds⟩
          | false =>
              refine .inl (canGoOn_of_decode hg .done (.ok ()) ?_)
              simp only [Hub.decode]
              rw [if_neg (by simpa [isLocked] using hlocked)]
      | event app =>
          have hattending := attending_reach h
          have hattends := hattending.attends _ hmem
          have hthread : t = .runForever app := hattends.event app rfl
          obtain ⟨a, ha, hsilent⟩ := hattends.speaking app hthread rfl
          obtain ⟨a', ha', hended⟩ := hattending.owned.live app _ hmem
            (isOf_runForever app _ hthread)
          rw [ha, Option.some.injEq] at ha'
          rw [← ha'] at hended
          refine .inl (canGoOn_of_decode hg (.happened .closed) (.ok .closed) ?_)
          simp [Hub.decode, ha, Hub.isPossible, hended, hsilent]

/-- A run is never stuck as a whole, unless greenlets wait for each other in a circle: as long as
one has something to do and none does, some greenlet can go on. -/
theorem goes_on (h : (hub cfg).Reach .any w) (hbusy : ∃ g, Busy w g)
    (hacyclic : ∀ g, ¬Relation.TransGen (WaitsFor w) g g) : ∃ g, CanGoOn cfg w g := by
  by_contra hstuck
  -- if none went on, each would wait for another one that is busy itself
  have hwaits : ∀ g, Busy w g → ∃ g', WaitsFor w g g' := fun g hg =>
    (canGoOn_or_waits h hg).resolve_left fun hgoes => hstuck ⟨g, hgoes⟩
  have hheld : ∀ g g', WaitsFor w g g' → Busy w g' := by
    rintro g g' ⟨n, -, ⟨root, frames⟩, hg', frame, hframe, -⟩
    cases frames with
    | nil => cases hframe
    | cons first rest => exact ⟨root, first, rest, hg'⟩
  let Working : Type := { g : Fin w.pool.length // Busy w g }
  have hlt : ∀ g, Busy w g → g < w.pool.length := fun g ⟨_, _, _, hg⟩ =>
    (List.getElem?_eq_some_iff.mp hg).1
  have hnonempty : Nonempty Working := by
    obtain ⟨g, hg⟩ := hbusy
    exact ⟨⟨⟨g, hlt g hg⟩, hg⟩⟩
  let waits : Working → Working → Prop := fun a b => WaitsFor w a.1 b.1
  have hfree : ∀ a, ¬Relation.TransGen waits a a := fun a hcycle =>
    hacyclic a.1 (Relation.TransGen.lift (fun a : Working => (a.1 : Nat)) (fun _ _ hab => hab)
      _ _ hcycle)
  have hfinite : Finite Working := Subtype.finite
  obtain ⟨a, ha⟩ := exists_unblocked hfree
  obtain ⟨g', hg'⟩ := hwaits a.1 a.2
  exact ha ⟨⟨g', hlt g' (hheld _ _ hg')⟩, hheld _ _ hg'⟩ hg'

/-- Nobody who waits for a lock holds one. -/
def isApart (w : HubWorld) : Bool :=
  w.pool.all fun greenlet => match greenlet.frames with
    | .waiting _ _ _ (.acquire _) _ :: _ =>
        greenlet.frames.all fun frame => (subjectOf frame.label.thread).all fun n =>
          !isInside n frame.label
    | _ => true

/-- Then nobody waits in a circle. -/
theorem acyclic_of_isApart (h : isApart w = true) (g : Nat) :
    ¬Relation.TransGen (WaitsFor w) g g := by
  intro hcycle
  obtain ⟨_, ⟨n, ⟨root, t, history, state, k, rest, hg⟩, -⟩, -⟩ :=
    Relation.TransGen.head'_iff.mp hcycle
  obtain ⟨_, -, m, -, greenlet, hg', frame, hframe, hinside⟩ :=
    Relation.TransGen.tail'_iff.mp hcycle
  rw [hg, Option.some.injEq] at hg'
  subst hg'
  have hall := List.all_eq_true.mp h _ (List.mem_of_getElem? hg)
  have hout := List.all_eq_true.mp hall frame hframe
  cases hlabel : frame.label with
  | ready t => simp [hlabel, isInside] at hinside
  | blocked t op =>
      rw [hlabel] at hinside hout
      simp only [isInside, Bool.and_eq_true, beq_iff_eq] at hinside
      simp [Label.thread, isInside, hinside.1, hinside.2] at hout

/-- A run in which one greenlet waits for another one. -/
theorem goes_on_next :
    ∃ w, (hub (.direct none)).Reach .any w ∧ WaitsFor w 4 3 ∧ ∃ g, CanGoOn (.direct none) w g := by
  have h := (hub (.direct none)).reach_after [.fork .start, .start 0, .fork (.newSubject "7"),
    .start 2, .fork (.send (.str "Upload") (.subject 0) none none "1"), .start 3,
    .fork (.next 0 (.int 1)), .start 4] .start rfl
  exact ⟨_, h, ⟨0, ⟨_, _, _, _, _, _, rfl⟩, _, rfl, _, List.mem_cons_self, rfl⟩,
    goes_on h ⟨4, _, _, _, rfl⟩ (acyclic_of_isApart rfl)⟩

/-! ## Waiting forever -/

/-- A greenlet that is not the one of a websocket, and waits for a lock that is taken, is stuck. -/
theorem stuck_of_locked {root t : Activity} {history : List (Logged State Exc Op Op.Result)}
    {state : State} {k : Except Exc (Op.Result (.acquire n)) → Hub Bool}
    {rest : List (Frame State Exc Op Op.Result Activity)}
    (hg : w.pool[g]? = some ⟨root, .waiting t history state (.acquire n) k :: rest⟩)
    (hroot : ∀ app, root ≠ .runForever app) (hlocked : isLocked n w.shared = true) :
    (hub cfg).Stuck w g := by
  have hkilled : Hub.isKilled w.shared root = false := by
    cases root with
    | runForever app => exact absurd rfl (hroot app)
    | _ => rfl
  intro choice hchoice
  cases choice with
  | fork t => cases hchoice
  | call g' t' =>
      cases hchoice
      simp [System.step, hg, hub, Hub.isForeign]
  | start g' =>
      cases hchoice
      simp [System.step, hg]
  | answer g' answer =>
      cases hchoice
      have hnone : (hub cfg).decode w.shared root (.acquire n) answer = none := by
        cases answer with
        | killed => simp [hub, Hub.decode, hkilled]
        | done =>
            simp only [hub, Hub.decode]
            exact if_pos hlocked
        | _ => rfl
      simp only [System.step, hg, hnone]

/-- Greenlets each of which waits for a lock that another one of them holds, or it itself, stand
still forever, whatever else happens. -/
theorem deadlocked {G : Nat → Prop} (h : (hub cfg).Reach .any w)
    (hroot : ∀ g greenlet app, G g → w.pool[g]? = some greenlet →
      greenlet.root ≠ .runForever app)
    (hwaits : ∀ g, G g → ∃ g', G g' ∧ WaitsFor w g g') {choices : List (Choice Activity Answer)}
    (hafter : (hub cfg).after w choices = some w') : ∀ g, G g → w'.pool[g]? = w.pool[g]? := by
  let at_ : Nat → Greenlet State Exc Op Op.Result Activity := fun g =>
    w.pool[g]?.getD ⟨.start, []⟩
  have hstand : ∀ g, G g → w.pool[g]? = some (at_ g) := by
    intro g hG
    obtain ⟨g', -, n, ⟨root, t, history, state, k, rest, hg⟩, -⟩ := hwaits g hG
    simp only [at_, hg, Option.getD_some]
  have hstuck : ∀ w₁, (hub cfg).Reach .any w₁ → (∀ g, G g → w₁.pool[g]? = some (at_ g)) →
      ∀ g, G g → (hub cfg).Stuck w₁ g := by
    intro w₁ hreach hsame g hG
    obtain ⟨g', hG', n, ⟨root, t, history, state, k, rest, hg⟩, greenlet, hg', frame, hframe, hinside⟩ :=
      hwaits g hG
    have hwaiting : w₁.pool[g]? = some ⟨root, .waiting t history state (.acquire n) k :: rest⟩ := by
      rw [hsame g hG, ← hstand g hG, hg]
    -- the one inside stands where it stood, so that the lock is still taken
    have hholding : w₁.pool[g']? = some greenlet := by
      rw [hsame g' hG', ← hstand g' hG', hg']
    have hlocked : isLocked n w₁.shared = true := by
      have hpos : 0 < w₁.labels.countP fun l => isInside n l = true :=
        Multiset.countP_pos.mpr ⟨frame.label, World.mem_labels hholding hframe, hinside⟩
      rw [holds_countP hreach n] at hpos
      cases hn : isLocked n w₁.shared with
      | true => rfl
      | false =>
          rw [hn] at hpos
          cases hpos
    exact stuck_of_locked hwaiting (fun app => hroot g _ app hG hg) hlocked
  intro g hG
  rw [System.frozen hstuck h hstand hafter g hG, hstand g hG]

/-- A run in which `on_close`, called from inside `next` when its write fails, calls `next` again. -/
theorem deadlocked_reentrant :
    ∃ w, (hub (.direct none)).Reach .any w ∧ WaitsFor w 5 5 ∧
      ∀ choices w', (hub (.direct none)).after w choices = some w' →
        w'.pool[5]? = w.pool[5]? := by
  have h := (hub (.direct none)).reach_after [.fork .start, .start 0, .fork (.newSubject "7"),
    .start 2, .fork (.onClose true), .start 3,
    .fork (.send (.str "Upload") (.subject 0) none none "1"), .start 4, .answer 4 .done,
    .fork (.next 0 (.int 1)), .start 5, .answer 5 (.raised .connectionClosed),
    .call 5 (.next 0 (.int 2)), .start 5] .start rfl
  have hrun : ∃ w, (hub (.direct none)).Reach .any w ∧ WaitsFor w 5 5 ∧
      ∀ greenlet app, w.pool[5]? = some greenlet → greenlet.root ≠ .runForever app := by
    refine ⟨_, h, ⟨0, ⟨_, _, _, _, _, _, rfl⟩, _, rfl, _, .tail _ (.head _), rfl⟩, ?_⟩
    rintro greenlet app ⟨⟩
    simp
  obtain ⟨w, hreach, hwaits, hroot⟩ := hrun
  refine ⟨w, hreach, hwaits, fun choices w' hafter => ?_⟩
  refine deadlocked (G := (· = 5)) hreach ?_ (fun g hg => ⟨5, rfl, hg ▸ hwaits⟩) hafter 5 rfl
  rintro g greenlet app rfl hg
  exact hroot greenlet app hg

end GeventSignalR
