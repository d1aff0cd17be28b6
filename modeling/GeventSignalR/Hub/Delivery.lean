import GeventSignalR.Hub.Keeps

/-!
# What a call has written

`WebsocketTransport.send` writes its message once.  When the websocket refuses it, the
message is gone: without a reconnection handler the call raises, and with one it goes
through `handle_reconnect` and returns.

* `written` and `refused` are the writes among the operations of a thread, with the states they
  were made in.
* `messageOf` is the message of a call, made of what the call finds in such a state.
* `WrittenOnce` is what a caller expects of a call that returned.
* `Delivers` are the programs that meet it exactly as far as the code does.
-/

namespace GeventSignalR

open Coop Coop.Prog

/-- Some operations of a thread, with their results. -/
abbrev Operations : Type :=
  List (Logged State Exc Op Op.Result)

/-- The message of a write that succeeded, and the state in which it was written. -/
def writtenBy (a : Logged State Exc Op Op.Result) : Option (State × Outgoing) :=
  match a with
  | ⟨s, .wsSend _ message, .ok _⟩ => some (s, message)
  | _ => none

/-- The message of a write that raised. -/
def refusedBy (a : Logged State Exc Op Op.Result) : Option Outgoing :=
  match a with
  | ⟨_, .wsSend _ message, .error _⟩ => some message
  | _ => none

/-- The messages that were written, each with the state at its write. -/
def written (h : Operations) : List (State × Outgoing) :=
  h.filterMap writtenBy

/-- The messages that a websocket refused. -/
def refused (h : Operations) : List Outgoing :=
  h.filterMap refusedBy

/-- The message of a call, with the headers of the connection and the attributes of the call's
subject in a state. -/
def messageOf (s : State) : Activity → Option Outgoing
  | .send method (.list items) _ invocationId uuid =>
      some (.hub (.newInvocation (.str (invocationId.getD uuid)) (.dict s.headers) method
        (.list items)))
  | .send _ (.subject subject) _ _ _ =>
      s.subjects[subject]?.map fun object =>
        .hub (.newInvocationClientStream (.list [.str object.invocationId]) .none
          (object.target.getD .none) (.tuple []))
  | .stream event eventParams uuid =>
      some (.hub (.newStreamInvocation (.str uuid) (.dict s.headers) (.str event) eventParams))
  | .next subject item =>
      s.subjects[subject]?.map fun object =>
        .hub (.newStreamItem (.str object.invocationId) .none item)
  | .complete subject =>
      s.subjects[subject]?.map fun object =>
        .hub (.newCompletionClientStream (.str object.invocationId) .none)
  | _ => none

theorem messageOf_congr {s s' : State} (hheaders : s'.headers = s.headers)
    (hsubjects : s'.subjects = s.subjects) (t : Activity) : messageOf s' t = messageOf s t := by
  unfold messageOf
  rw [hheaders, hsubjects]

section Subjects

variable {s : State} {subject : Nat} {object : Subject}

theorem messageOf_start (h : s.subjects[subject]? = some object) (method : Value)
    (onInvocation : Option Nat) (invocationId : Option String) (uuid : String) :
    messageOf s (.send method (.subject subject) onInvocation invocationId uuid) =
      some (.hub (.newInvocationClientStream (.list [.str object.invocationId]) .none
        (object.target.getD .none) (.tuple []))) := by
  rw [messageOf, h, Option.map_some]

end Subjects

variable {cfg : Config} {t : Activity}

/-- Code that does not write, in any company. -/
abbrev Reads {α : Type} (t : Activity) (p : Hub α) : Prop :=
  Only t (isWrite · = false) p

end GeventSignalR
