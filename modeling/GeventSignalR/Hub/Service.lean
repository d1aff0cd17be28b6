import GeventSignalR.Hub.Registration

/-!
# What a message does to the table

A message selects the handlers with its id, at most one, calls it, and may unregister it when the
call returns.

* `Serves` (in the module before) says that a program makes a call.
* `KeepsService` are the steps of the greenlet inside `on_message`, for a property that may depend
  on the handler whose last call is running.
* `KeepsService.dispatch` puts them together for every kind of message.
-/

namespace GeventSignalR

open Coop Coop.Prog

/-- What the steps of `dispatch` do to a property, in which `busy` is the handler that is about to
be unregistered. -/
structure KeepsService (R : HubRely) (J : Option Handler → HubInv) : Prop where
  off : OffHandlers R (J none)
  roster : ∀ {s P}, J none s P → Roster s
  take : ∀ {busy s P message made}, J none s P →
    (∀ h ∈ s.streamHandlers, callsOf h made = (h.callFor message).toList) →
    (∀ c ∈ made, c.2.handler ∈ s.streamHandlers ∧ functionOf s c.2 = some c.1) →
    (∀ h, busy = some h ↔ h ∈ s.streamHandlers ∧ h.isEnded message = true) →
      J busy (taking message made s) P
  apply : ∀ {call f s P hist}, functionOf s call = some f → J call.ending (calling f call s) P →
    (f.apply call).wp R (fun r s P _ =>
      (r = .ok () → J call.ending s P) ∧ (r ≠ .ok () → J none s P)) s P hist
  drop : ∀ {h s P invocationId}, J (some h) s P → Connection.matchesId invocationId h = true →
    J none { s with
      streamHandlers := s.streamHandlers.filter fun h => !Connection.matchesId invocationId h } P
  dropNone : ∀ {s P invocationId}, J none s P →
    s.streamHandlers.filter (Connection.matchesId invocationId) = [] →
      J none { s with
        streamHandlers := s.streamHandlers.filter fun h => !Connection.matchesId invocationId h } P

namespace KeepsService

variable {R : HubRely} {J : Option Handler → HubInv} {s : State}
  {P : Multiset (Label Op Activity)} {h : Handler} {message : Message} {busy : Option Handler}
  {p : Handler → Bool} {hist : List (Logged State Exc Op Op.Result)}

/-- The selected handlers get a call each. -/
theorem take_selected (hkeeps : KeepsService R J) {f : Function} {call : Handler → HandlerCall}
    (hJ : J none s P) (hcall : ∀ h, h.callFor message = if p h then some (call h) else none)
    (hhandler : ∀ h, (call h).handler = h)
    (hfunction : ∀ h ∈ s.streamHandlers.filter p, functionOf s (call h) = some f)
    (hbusy : ∀ h, busy = some h ↔ h ∈ s.streamHandlers ∧ h.isEnded message = true) :
    J busy (taking message ((s.streamHandlers.filter p).map fun h => (f, call h)) s) P := by
  apply hkeeps.take hJ
  · intro h hmem
    have hnodup := List.Nodup.of_map _ (hkeeps.roster hJ).nodup
    rw [callsOf_selected hnodup hmem hhandler, hcall]
    split_ifs <;> rfl
  · intro c hc
    obtain ⟨h, hmem, rfl⟩ := List.mem_map.mp hc
    rw [hhandler]
    exact ⟨List.mem_of_mem_filter hmem, hfunction h hmem⟩
  · exact hbusy

/-- Nobody is called. -/
theorem unserved (hkeeps : KeepsService R J) {call : Handler → HandlerCall} (hJ : J none s P)
    (hcall : ∀ h, h.callFor message = if p h then some (call h) else none)
    (hhandler : ∀ h, (call h).handler = h) (hnone : s.streamHandlers.filter p = [])
    (hbusy : ∀ h, busy = some h ↔ h ∈ s.streamHandlers ∧ h.isEnded message = true) :
    J busy (dispatching message s) P := by
  have htaken := hkeeps.take_selected (f := .default) hJ hcall hhandler (by simp [hnone]) hbusy
  have hsame : taking message [] s = dispatching message s := by
    unfold taking dispatching
    rw [List.append_nil]
  rwa [hnone, List.map_nil, hsame] at htaken

/-- The one handler that is selected is called. -/
theorem served (hkeeps : KeepsService R J) {g : Handler → Hub Unit}
    {call : Handler → HandlerCall} (hJ : J none s P)
    (hcall : ∀ h, h.callFor message = if p h then some (call h) else none)
    (hhandler : ∀ h, (call h).handler = h) (hone : s.streamHandlers.filter p = [h])
    (hg : Serves R (g h) (call h))
    (hbusy : ∀ h', (call h).ending = some h' ↔
      h' ∈ s.streamHandlers ∧ h'.isEnded message = true) :
    (each [h] g).wp R (fun r s P _ =>
      (r = .ok () → J (call h).ending s P) ∧ (r ≠ .ok () → J none s P))
      (dispatching message s) P hist := by
  have hmem : (call h).handler ∈ handlersOf s.history.table := by
    have hin : h ∈ s.streamHandlers.filter p := by simp [hone]
    rw [hhandler]
    exact (hkeeps.roster hJ).listed.subset (List.mem_of_mem_filter hin)
  obtain ⟨f, hfunction⟩ := (hkeeps.roster hJ).functionOf hmem
  have hselected : ∀ h' ∈ s.streamHandlers.filter p, functionOf s (call h') = some f := by
    intro h' hin
    rw [hone, List.mem_singleton] at hin
    rw [hin]
    exact hfunction
  have htaken := hkeeps.take_selected hJ hcall hhandler hselected hbusy
  rw [hone] at htaken
  show (g h >>= fun _ => each [] g).wp _ _ _ _ _
  rw [wp_bind]
  apply hg (dispatching message s) P hist f hfunction
  refine wp_mono ?_ (hkeeps.apply hfunction htaken)
  rintro (e | _) s P hist hend
  · exact hend
  · exact hend

/-- A message that ends the life of its handler. -/
theorem ending (hkeeps : KeepsService R J) {invocationId : Value} {g : Handler → Hub Unit}
    (call : Handler → HandlerCall)
    (hp : ∀ h, p h = true → Connection.matchesId invocationId h = true)
    (hended : ∀ h : Handler, h.isEnded message = Connection.matchesId invocationId h)
    (hcall : ∀ h, h.callFor message = if p h then some (call h) else none)
    (hhandler : ∀ h, (call h).handler = h) (hending : ∀ h, (call h).ending = some h)
    (hg : ∀ h, p h = true → Serves R (g h) (call h)) :
    Keeps R (J none) (do
      let fired ← Connection.selectHandlers message p
      each fired g
      Connection.unregister invocationId) := by
  intro s P hist hJ
  have hmatching := (hkeeps.roster hJ).fired (p := Connection.matchesId invocationId) fun _ h => h
  have hbusy : ∀ h, s.streamHandlers.filter (Connection.matchesId invocationId) = [h] →
      ∀ h', some h = some h' ↔ h' ∈ s.streamHandlers ∧ h'.isEnded message = true := by
    intro h hone h'
    rw [hended, ← List.mem_filter, hone, List.mem_singleton, Option.some.injEq, eq_comm]
  unfold Connection.selectHandlers record Connection.unregister
  simp only [wp_bind, wp_modify, wp_get, wp_pure]
  rcases (hkeeps.roster hJ).fired hp with hnone | ⟨h, hmem, hselected, hone⟩
  · rw [hnone]
    rcases hmatching with hnobody | ⟨h, hmem, hmatches, hone⟩
    · have htaken : J none (dispatching message s) P := by
        apply hkeeps.unserved hJ hcall hhandler hnone
        intro h
        rw [hended, ← List.mem_filter, hnobody]
        simp
      exact hkeeps.dropNone htaken hnobody
    · -- an `InvocationHandler` is cancelled without a call
      have htaken : J (some h) (dispatching message s) P :=
        hkeeps.unserved hJ hcall hhandler hnone (hbusy h hone)
      exact hkeeps.drop htaken hmatches
  · have hin := List.mem_filter.mpr ⟨hmem, hp h hselected⟩
    have hall : s.streamHandlers.filter (Connection.matchesId invocationId) = [h] := by
      rcases hmatching with hnobody | ⟨h', -, -, hone'⟩
      · rw [hnobody] at hin
        cases hin
      · rw [hone', List.mem_singleton] at hin
        rw [hone', hin]
    have hcalling : ∀ h', (call h).ending = some h' ↔
        h' ∈ s.streamHandlers ∧ h'.isEnded message = true := by
      rw [hending]
      exact hbusy h hall
    rw [hone]
    refine wp_mono ?_ (hkeeps.served hJ hcall hhandler hone (hg h hselected) hcalling)
    rintro (e | _) s P hist ⟨hreturned, hraised⟩
    · exact hraised (by simp)
    · have hlast := hreturned rfl
      rw [hending] at hlast
      exact hkeeps.drop hlast (hp h hselected)

/-- A message that ends no life. -/
theorem item (hkeeps : KeepsService R J) {invocationId : Value} {g : Handler → Hub Unit}
    (call : Handler → HandlerCall)
    (hp : ∀ h, p h = true → Connection.matchesId invocationId h = true)
    (hended : ∀ h : Handler, h.isEnded message = false)
    (hcall : ∀ h, h.callFor message = if p h then some (call h) else none)
    (hhandler : ∀ h, (call h).handler = h) (hending : ∀ h, (call h).ending = none)
    (hg : ∀ h, p h = true → Serves R (g h) (call h)) :
    Keeps R (J none) (do
      let fired ← Connection.selectHandlers message p
      each fired g) := by
  intro s P hist hJ
  have hbusy : ∀ h, none = some h ↔ h ∈ s.streamHandlers ∧ h.isEnded message = true := by
    intro h
    simp [hended]
  unfold Connection.selectHandlers record
  simp only [wp_bind, wp_modify, wp_get, wp_pure]
  rcases (hkeeps.roster hJ).fired hp with hnone | ⟨h, hmem, hselected, hone⟩
  · rw [hnone]
    exact hkeeps.unserved hJ hcall hhandler hnone hbusy
  · have hcalling : ∀ h', (call h).ending = some h' ↔
        h' ∈ s.streamHandlers ∧ h'.isEnded message = true := by
      rw [hending]
      exact hbusy
    rw [hone]
    refine wp_mono ?_ (hkeeps.served hJ hcall hhandler hone (hg h hselected) hcalling)
    rintro (e | _) s P hist ⟨hreturned, hraised⟩
    · exact hraised (by simp)
    · have hlast := hreturned rfl
      rwa [hending] at hlast

/-- A message other than a close. -/
theorem dispatch (hkeeps : KeepsService R J) (message : Message) :
    Keeps R (J none) (Connection.dispatch message) := by
  cases message with
  | invocation headers invocationId target arguments => exact hkeeps.off.dispatchInvocation
  | completion headers invocationId result error =>
      refine Keeps.bind hkeeps.off.reportError fun _ => ?_
      exact hkeeps.ending (fun h => .complete h _) (fun _ h => h) (fun _ => rfl)
        (fun _ => rfl) (fun _ => rfl) (fun _ => rfl) fun _ _ => serves_complete
  | streamItem headers invocationId item =>
      apply hkeeps.item fun h => .next h item
      · exact fun h hp => (Bool.and_eq_true_iff.mp hp).2
      · exact fun _ => rfl
      · exact fun _ => rfl
      · exact fun _ => rfl
      · exact fun _ => rfl
      · exact fun h hp => serves_next (Bool.and_eq_true_iff.mp hp).1
  | cancelInvocation headers invocationId =>
      apply hkeeps.ending fun h => .error h _
      · exact fun h hp => (Bool.and_eq_true_iff.mp hp).2
      · exact fun _ => rfl
      · exact fun _ => rfl
      · exact fun _ => rfl
      · exact fun _ => rfl
      · exact fun h hp => serves_error (Bool.and_eq_true_iff.mp hp).1
  | _ => exact .pure _

end KeepsService

end GeventSignalR
