import GeventSignalR.Protocol.JsonRoundTrip
import GeventSignalR.Protocol.MessagePack
import Mathlib.Logic.Function.Basic
import Mathlib.Order.Defs.Unbundled

/-!
# Encoding live objects

The encoders are given objects, not copies of their attributes.  Here the objects have
addresses in a heap, and `MyEncoder.default` works on the `__dict__` it finds there.

* `Item`, `Heap`: references to Python objects, and what lies at the addresses.
* `encodeItem`: the traversal of `json.JSONEncoder`, with the hook `default`.
* `Along`, `Reads`: what a step of the traversal does to the heap, each with a rule for
  every construct of the traversal.
* `encodeItem_reads`: the traversal changes the heap exactly when it meets an object with
  an attribute that `default` renames; `encode_unchanged_iff` says it of the protocols.
-/

namespace GeventSignalR
namespace Live

/-! ## Objects -/

/-- A reference to a Python object. -/
inductive Item where
  | none
  | bool (b : Bool)
  | int (i : Int)
  | float (bits : UInt64)
  | str (s : String)
  | bytes (bs : List UInt8)
  | messageType (t : MessageType)
  | list (address : Nat)
  | tuple (address : Nat)
  | dict (address : Nat)
  /-- An instance of some class, with a `__dict__`. -/
  | object (address : Nat)
  deriving DecidableEq

/-- The classes the protocols tell apart. -/
inductive ClassName where
  | handshakeRequestMessage
  | invocationMessage
  | other
  deriving DecidableEq

/-- An instance: its class, and the address of its `__dict__`. -/
structure Instance where
  className : ClassName
  dict : Nat

/-- The entries of a dictionary in insertion order. -/
abbrev Entries := List (Item × Item)

namespace Entries

/-- The value of a key that is a string. -/
def get? (entries : Entries) (name : String) : Option Item :=
  (entries.find? fun entry => entry.1 == .str name).map (·.2)

/-- `name in data`. -/
def has (entries : Entries) (name : String) : Bool :=
  entries.any fun entry => entry.1 == .str name

/-- `data[name] = value`: an existing key keeps its place, a new one goes last. -/
def set (entries : Entries) (name : String) (value : Item) : Entries :=
  if entries.has name then
    entries.map fun entry => if entry.1 == .str name then (entry.1, value) else entry
  else
    entries ++ [(.str name, value)]

/-- `del data[name]`. -/
def erase (entries : Entries) (name : String) : Entries :=
  entries.filter fun entry => !entry.1 == .str name

/-- `data[new] = data[old]; del data[old]`, where `old` is present. -/
def rename (entries : Entries) (old new : String) : Entries :=
  match entries.get? old with
  | some value => (entries.set new value).erase old
  | none => entries

/-- What `default` makes of a `__dict__`. -/
def renamed (entries : Entries) : Entries :=
  (entries.rename "invocation_id" "invocationId").rename "stream_ids" "streamIds"

end Entries

/-- The contents of all lists, tuples, dictionaries and instances. -/
structure Heap where
  items : Nat → List Item
  entries : Nat → Entries
  instances : Nat → Instance

/-- The attributes of the object at an address. -/
def Heap.vars (heap : Heap) (address : Nat) : Entries :=
  heap.entries (heap.instances address).dict

/-- A program that works on the heap and may raise.  What it has changed stays changed
when it raises. -/
abbrev Program (α : Type) := ExceptT Exc (StateM Heap) α

/-- The result and the heap after a run. -/
def run {α : Type} (program : Program α) (heap : Heap) : Except Exc α × Heap :=
  (ExceptT.run program).run heap

/-- A step that does not look at the heap. -/
def ofExcept {α : Type} (result : Except Exc α) : Program α :=
  match result with
  | .ok a => pure a
  | .error e => throw e

/-- The heap after `default` on an object with the given `__dict__`. -/
def Heap.rename (heap : Heap) (data : Nat) : Heap :=
  { heap with entries := Function.update heap.entries data (heap.entries data).renamed }

/-! ## The encoders -/

/-- A value that is written as it is. -/
def Item.scalar? : Item → Option Value
  | .none => some .none
  | .bool b => some (.bool b)
  | .int i => some (.int i)
  | .float bits => some (.float bits)
  | .str s => some (.str s)
  | _ => Option.none

/-- A scalar is written when the traversal comes to it, which may raise. -/
def write (json : PyJson) (value : Value) : Except Exc Value :=
  (json.dumps value).map fun _ => value

/-- The text of a key.  Keys are strings, numbers, booleans or `None`. -/
def key (json : PyJson) (item : Item) : Except Exc Value :=
  match item.scalar? with
  | some (.str s) => .ok (.str s)
  | some value => (json.dumps value).map .str
  | none => .error .typeError

def recursionError : Exc := .exception "maximum recursion depth exceeded"

def circularReference : Exc := .valueError "Circular reference detected"

/-- The traversal of `json.JSONEncoder`, down to the given depth.  `markers` are the
containers that are being written.  The result is the value that the text stands for. -/
def encodeItem (json : PyJson) (default : Item → Program Item) :
    Nat → List Item → Item → Program Value
  | 0, _, item =>
      match item.scalar? with
      | some value => ofExcept (write json value)
      | none => throw recursionError
  | depth + 1, markers, item =>
      match item.scalar? with
      | some value => ofExcept (write json value)
      | none =>
          if item ∈ markers then
            throw circularReference
          else
            match item with
            | .list address | .tuple address => do
                let items := (← get).items address
                return .list (← items.mapM (encodeItem json default depth (item :: markers)))
            | .dict address => do
                let entries := (← get).entries address
                return .dict (← entries.mapM fun entry => do
                  let name ← ofExcept (key json entry.1)
                  return (name, ← encodeItem json default depth (item :: markers) entry.2))
            | _ => do
                encodeItem json default depth (item :: markers) (← default item)

namespace MyEncoder

/-- `default`.  It renames entries of the object's own `__dict__`, and returns it. -/
def default (o : Item) : Program Item :=
  match o with
  | .messageType t => return .int t.value
  | .object address => do
      let data := ((← get).instances address).dict
      modify fun heap => heap.rename data
      return .dict data
  | _ => throw .attributeError

end MyEncoder

/-- `JSONEncoder.default`. -/
def JSONEncoder.default (_ : Item) : Program Item :=
  throw .typeError

/-- `hub_protocol.encode` of `JsonHubProtocol`. -/
def JsonHubProtocol.encode (json : PyJson) (depth message : Nat) : Program Raw := do
  let data ← encodeItem json MyEncoder.default depth [] (.object message)
  let text ← ofExcept (json.dumps data)
  return .text (text ++ String.singleton BaseHubProtocol.recordSeparator)

namespace MessagePackHubProtocol

/-- `_encode_message`: the attributes the message has, in the order of `_priority`. -/
def encodeMessage (vars : Entries) : Except Exc (List Item) :=
  (GeventSignalR.MessagePackHubProtocol.priority.filter vars.has).mapM fun name =>
    match name, vars.get? name with
    | "type", some (.messageType t) => .ok (.int t.value)
    | "type", _ => .error .attributeError
    | _, some value => .ok value
    | _, none => .error .attributeError

/-- `hub_protocol.encode` of `MessagePackHubProtocol`.  `packb` reads the objects it is
given. -/
def encode (json : PyJson) (packb : Heap → List Item → Except Exc (List UInt8))
    (depth message : Nat) : Program Raw := do
  let heap ← get
  if (heap.instances message).className = .handshakeRequestMessage then
    let data ← encodeItem json JSONEncoder.default depth [] (.dict (heap.instances message).dict)
    let content ← ofExcept (json.dumps data)
    return .text (content ++ String.singleton BaseHubProtocol.recordSeparator)
  else
    let msg ← ofExcept (encodeMessage (heap.vars message))
    let encodedMessage ← ofExcept (packb heap msg)
    return .binary (GeventSignalR.MessagePackHubProtocol.toVarint encodedMessage.length ++
      encodedMessage)

end MessagePackHubProtocol

/-- The two protocols. -/
inductive Protocol where
  | json
  | messagePack
  deriving DecidableEq

/-- `protocol.encode(message)`. -/
def encode (json : PyJson) (packb : Heap → List Item → Except Exc (List UInt8)) :
    Protocol → Nat → Nat → Program Raw
  | .json, depth, message => JsonHubProtocol.encode json depth message
  | .messagePack, depth, message => MessagePackHubProtocol.encode json packb depth message

/-- `repr(message)` of an `InvocationMessage` reads three attributes. -/
def InvocationMessage.repr (heap : Heap) (message : Nat) : Except Exc (Item × Item × Item) := do
  let getattr := fun name => match (heap.vars message).get? name with
    | some value => .ok value
    | none => .error Exc.attributeError
  return (← getattr "invocation_id", ← getattr "target", ← getattr "arguments")

/-! ## Renamed attributes -/

namespace Entries

/-- An attribute that `default` renames. -/
def Renamable (entries : Entries) : Prop :=
  entries.has "invocation_id" = true ∨ entries.has "stream_ids" = true

instance (entries : Entries) : Decidable entries.Renamable :=
  inferInstanceAs (Decidable (_ ∨ _))

theorem get?_eq_none {entries : Entries} {name : String} (h : entries.has name = false) :
    entries.get? name = none := by
  have hfind : entries.find? (fun entry => entry.1 == .str name) = none := by
    rw [List.find?_eq_none]
    intro entry hentry hname
    have hhas : entries.has name = true := List.any_eq_true.mpr ⟨entry, hentry, hname⟩
    rw [h] at hhas
    cases hhas
  rw [get?, hfind]
  rfl

theorem rename_of_not_has {entries : Entries} {old new : String} (h : entries.has old = false) :
    entries.rename old new = entries := by
  rw [rename, get?_eq_none h]

theorem has_erase_self (entries : Entries) (name : String) :
    (entries.erase name).has name = false := by
  simp [has, erase]

theorem has_erase_of_not_has {entries : Entries} {name other : String}
    (h : entries.has name = false) : (entries.erase other).has name = false := by
  simp only [has, erase, List.any_eq_false, List.mem_filter] at h ⊢
  exact fun entry hentry => h entry hentry.1

theorem has_set_of_ne {entries : Entries} {name new : String} {value : Item} (hne : new ≠ name)
    (h : entries.has name = false) : (entries.set new value).has name = false := by
  simp only [has, List.any_eq_false] at h
  unfold set
  split
  · simp only [has, List.any_map, List.any_eq_false]
    intro entry hentry
    have hentry' := h entry hentry
    simp only [Function.comp_apply]
    split
    · exact hentry'
    · exact hentry'
  · simp only [has, List.any_append, Bool.or_eq_false_iff, List.any_eq_false]
    constructor
    · exact h
    · simp [hne]

theorem has_rename_of_ne {entries : Entries} {old new name : String} (hne : new ≠ name)
    (h : entries.has name = false) : (entries.rename old new).has name = false := by
  unfold rename
  split
  · exact has_erase_of_not_has (has_set_of_ne hne h)
  · exact h

/-- `default` leaves no attribute to rename. -/
theorem has_rename_self (entries : Entries) {old new : String} :
    (entries.rename old new).has old = false := by
  cases hhas : entries.has old with
  | false =>
      rw [rename_of_not_has hhas]
      exact hhas
  | true =>
      unfold rename
      split
      · exact has_erase_self _ _
      · rename_i hnone
        rw [get?, Option.map_eq_none_iff, List.find?_eq_none] at hnone
        obtain ⟨entry, hentry, hname⟩ := List.any_eq_true.mp hhas
        exact absurd hname (hnone entry hentry)

theorem not_renamable_renamed (entries : Entries) : ¬ entries.renamed.Renamable := by
  have hid : entries.renamed.has "invocation_id" = false :=
    has_rename_of_ne (by decide) (has_rename_self entries)
  have hids : entries.renamed.has "stream_ids" = false := has_rename_self _
  rintro (h | h)
  · rw [hid] at h
    cases h
  · rw [hids] at h
    cases h

/-- Where there is nothing to rename, nothing changes. -/
theorem renamed_of_not_renamable {entries : Entries} (h : ¬ entries.Renamable) :
    entries.renamed = entries := by
  simp only [Renamable, not_or, Bool.not_eq_true] at h
  rw [renamed, rename_of_not_has h.1, rename_of_not_has h.2]

/-- The entries as a dictionary of values, where `value` gives the value of an item. -/
def dict (value : Item → Value) (entries : Entries) : Dict :=
  entries.map fun entry => (value entry.1, value entry.2)

section Dict

variable {value : Item → Value} (hvalue : ∀ item name, (value item).eqStr name = (item == .str name))

include hvalue

theorem dict_get? (entries : Entries) (name : String) :
    (entries.dict value).get? name = (entries.get? name).map value := by
  simp only [dict, Dict.get?, get?, List.find?_map, Function.comp_def, hvalue, Option.map_map]

theorem dict_set (entries : Entries) (name : String) (item : Item)
    (hstr : value (.str name) = .str name) :
    (entries.set name item).dict value = (entries.dict value).set name (value item) := by
  have hany : ((entries.dict value).any fun entry => entry.1.eqStr name) = entries.has name := by
    simp only [has, dict, List.any_map, Function.comp_def, hvalue]
  rw [Dict.set, hany, set]
  cases entries.has name with
  | true =>
      simp only [if_true, dict, List.map_map, List.map_inj_left, Function.comp_apply, hvalue]
      intro entry _
      split <;> rfl
  | false => simp [dict, hstr]

theorem dict_erase (entries : Entries) (name : String) :
    (entries.erase name).dict value = (entries.dict value).erase name := by
  simp only [erase, Dict.erase, dict, List.filter_map, Function.comp_def, hvalue]

theorem dict_rename (entries : Entries) (old new : String) (hstr : value (.str new) = .str new) :
    (entries.rename old new).dict value =
      GeventSignalR.MyEncoder.rename (entries.dict value) old new := by
  rw [rename, GeventSignalR.MyEncoder.rename, dict_get? hvalue]
  cases entries.get? old with
  | none => rfl
  | some item =>
      show ((entries.set new item).erase old).dict value = _
      rw [dict_erase hvalue, dict_set hvalue entries new item hstr]
      rfl

/-- What is written for an object is what `MyEncoder.default` makes of its attributes. -/
theorem dict_renamed (entries : Entries) (hstr : ∀ name, value (.str name) = .str name) :
    entries.renamed.dict value = GeventSignalR.MyEncoder.default (entries.dict value) := by
  rw [renamed, GeventSignalR.MyEncoder.default, dict_rename hvalue _ _ _ (hstr _),
    dict_rename hvalue _ _ _ (hstr _)]

end Dict

end Entries

/-! ## Steps on the heap -/

section Rules

variable {α β : Type}

theorem run_bind (x : Program α) (f : α → Program β) (heap : Heap) :
    run (x >>= f) heap = StateT.run (ExceptT.bindCont f (run x heap).1) (run x heap).2 := rfl

theorem run_bind_ok {x : Program α} (f : α → Program β) {heap heap' : Heap} {a : α}
    (h : run x heap = (.ok a, heap')) : run (x >>= f) heap = run (f a) heap' := by
  rw [run_bind, h]
  rfl

theorem run_bind_error {x : Program α} (f : α → Program β) {heap heap' : Heap} {e : Exc}
    (h : run x heap = (.error e, heap')) : run (x >>= f) heap = (.error e, heap') := by
  rw [run_bind, h]
  rfl

/-- A later heap: the instances are the same, and no `__dict__` has gained an attribute to
rename. -/
structure Follows (heap heap' : Heap) : Prop where
  instances : heap'.instances = heap.instances
  entries : ∀ data, ¬ (heap.entries data).Renamable → ¬ (heap'.entries data).Renamable

theorem Follows.refl (heap : Heap) : Follows heap heap where
  instances := rfl
  entries := fun _ h => h

theorem Follows.trans {heap heap' heap'' : Heap} (h : Follows heap heap')
    (h' : Follows heap' heap'') : Follows heap heap'' where
  instances := h'.instances.trans h.instances
  entries := fun data hdata => h'.entries data (h.entries data hdata)

theorem Follows.vars {heap heap' : Heap} (h : Follows heap heap') {address : Nat}
    (hvars : ¬ (heap.vars address).Renamable) : ¬ (heap'.vars address).Renamable := by
  rw [Heap.vars, h.instances]
  exact h.entries _ hvars

instance : IsPreorder Heap Follows where
  refl := Follows.refl
  trans := fun _ _ _ => Follows.trans

/-- Every run of the program leads from a heap to one that stands in the relation to it. -/
def Along (R : Heap → Heap → Prop) (program : Program α) : Prop :=
  ∀ heap, R heap (run program heap).2

namespace Along

variable {R : Heap → Heap → Prop} [IsPreorder Heap R]

theorem pure (a : α) : Along R (Pure.pure a : Program α) :=
  fun heap => refl_of R heap

theorem throw (e : Exc) : Along R (MonadExcept.throw e : Program α) :=
  fun heap => refl_of R heap

theorem ofExcept (result : Except Exc α) : Along R (Live.ofExcept result) := by
  cases result with
  | ok a => exact pure a
  | error e => exact throw e

theorem bind {x : Program α} {f : α → Program β} (hx : Along R x) (hf : ∀ a, Along R (f a)) :
    Along R (x >>= f) := by
  intro heap
  have hfirst := hx heap
  rcases hrun : run x heap with ⟨result, heap'⟩
  rw [hrun] at hfirst
  cases result with
  | ok a =>
      rw [run_bind_ok f hrun]
      exact trans_of R hfirst (hf a heap')
  | error e =>
      rw [run_bind_error f hrun]
      exact hfirst

omit [IsPreorder Heap R] in
theorem get {f : Heap → Program β} (hf : ∀ heap, Along R (f heap)) :
    Along R (MonadState.get >>= f) :=
  fun heap => hf heap heap

theorem mapM {f : α → Program β} (hf : ∀ a, Along R (f a)) (items : List α) :
    Along R (items.mapM f) := by
  induction items with
  | nil => exact pure []
  | cons a items ih =>
      rw [List.mapM_cons]
      exact bind (hf a) fun b => bind ih fun bs => pure (b :: bs)

/-- The traversal leads where its hook leads. -/
theorem encodeItem {json : PyJson} {default : Item → Program Item}
    (hdefault : ∀ o, Along R (default o)) :
    ∀ depth markers item, Along R (encodeItem json default depth markers item) := by
  intro depth
  induction depth with
  | zero =>
      intro markers item
      unfold Live.encodeItem
      split
      · exact ofExcept _
      · exact throw _
  | succ depth ih =>
      intro markers item
      unfold Live.encodeItem
      split
      · exact ofExcept _
      · split
        · exact throw _
        · split
          · exact get fun heap => bind (mapM (ih _) _) fun _ => pure _
          · exact get fun heap => bind (mapM (ih _) _) fun _ => pure _
          · exact get fun heap => bind
              (mapM (fun entry => bind (ofExcept _) fun _ => bind (ih _ _) fun _ => pure _) _)
              fun _ => pure _
          · exact bind (hdefault _) fun _ => ih _ _

end Along

/-- The hook of the package removes attributes to rename, and adds none. -/
theorem MyEncoder.default_along (o : Item) : Along Follows (MyEncoder.default o) := by
  cases o with
  | messageType t => exact Along.pure _
  | object address =>
      intro heap
      constructor
      · rfl
      · intro data hdata
        show ¬ (Function.update heap.entries _ (Entries.renamed _) data).Renamable
        by_cases hsame : data = (heap.instances address).dict
        · subst hsame
          rw [Function.update_self]
          exact Entries.not_renamable_renamed _
        · rw [Function.update_of_ne hsame]
          exact hdata
  | _ => exact Along.throw _

theorem JSONEncoder.default_along (o : Item) : Along (· = ·) (JSONEncoder.default o) :=
  Along.throw _

end Rules

/-! ## What the traversal meets -/

/-- The elements up to the first that fails, and that one. -/
def through {α : Type} (done : α → Bool) : List α → List α
  | [] => []
  | a :: as => a :: if done a then through done as else []

/-- JSON can represent the item: no bytes, no container in itself, no key of another
class, and nothing that the text of a scalar raises. -/
def writes (json : PyJson) (heap : Heap) : Nat → List Item → Item → Bool
  | 0, _, item =>
      match item.scalar? with
      | some value => (write json value).isOk
      | none => false
  | depth + 1, markers, item =>
      match item.scalar? with
      | some value => (write json value).isOk
      | none =>
          if item ∈ markers then
            false
          else
            match item with
            | .list address | .tuple address =>
                (heap.items address).all (writes json heap depth (item :: markers))
            | .dict address =>
                (heap.entries address).all fun entry =>
                  (key json entry.1).isOk && writes json heap depth (item :: markers) entry.2
            | .messageType t => writes json heap depth (item :: markers) (.int t.value)
            | .object address =>
                writes json heap depth (item :: markers) (.dict (heap.instances address).dict)
            | _ => false

/-- The objects in an item, in the order of the text, up to the first thing that JSON
cannot represent. -/
def meets (json : PyJson) (heap : Heap) : Nat → List Item → Item → List Nat
  | 0, _, _ => []
  | depth + 1, markers, item =>
      if item ∈ markers then
        []
      else
        match item with
        | .list address | .tuple address =>
            (through (writes json heap depth (item :: markers)) (heap.items address)).flatMap
              (meets json heap depth (item :: markers))
        | .dict address =>
            (through (fun entry =>
                (key json entry.1).isOk && writes json heap depth (item :: markers) entry.2)
              (heap.entries address)).flatMap fun entry =>
                if (key json entry.1).isOk then
                  meets json heap depth (item :: markers) entry.2
                else
                  []
        | .object address =>
            address :: meets json heap depth (item :: markers) (.dict (heap.instances address).dict)
        | _ => []

/-- What a program does to a heap.  Where it meets no object with an attribute to rename,
it leaves the heap as it is; otherwise one such object has lost its attribute. -/
def Reads {α : Type} (heap : Heap) (program : Program α) (done : Bool) (met : List Nat) : Prop :=
  ((∀ a ∈ met, ¬ (heap.vars a).Renamable) ∧ (run program heap).2 = heap ∧
      (run program heap).1.isOk = done) ∨
    ∃ a ∈ met, (heap.vars a).Renamable ∧ ¬ ((run program heap).2.vars a).Renamable

namespace Reads

variable {α β : Type} {heap : Heap}

theorem congr {program : Program α} {done done' : Bool} {met met' : List Nat}
    (h : Reads heap program done met) (hdone : done = done') (hmet : met = met') :
    Reads heap program done' met' := by
  rw [← hdone, ← hmet]
  exact h

theorem pure (a : α) : Reads heap (Pure.pure a : Program α) true [] :=
  .inl ⟨by simp, rfl, rfl⟩

theorem throw (e : Exc) : Reads heap (MonadExcept.throw e : Program α) false [] :=
  .inl ⟨by simp, rfl, rfl⟩

theorem ofExcept (result : Except Exc α) :
    Reads heap (Live.ofExcept result) result.isOk [] := by
  cases result with
  | ok a => exact pure a
  | error e => exact throw e

theorem bind {x : Program α} {f : α → Program β} {done done' : Bool} {met met' : List Nat}
    (hx : Reads heap x done met)
    (hf : ∀ a, (run x heap).1 = .ok a → Reads heap (f a) done' met')
    (hkeeps : ∀ a, Along Follows (f a)) :
    Reads heap (x >>= f) (done && done') (met ++ if done then met' else []) := by
  rcases hrun : run x heap with ⟨result, heap'⟩
  rw [hrun] at hf
  rcases hx with ⟨hmet, hheap, hdone⟩ | ⟨a, ha, hbefore, hafter⟩
  · rw [hrun] at hheap hdone
    simp only at hheap
    subst hheap
    cases result with
    | error e =>
        -- nothing has changed and the rest is not run
        have hdone : done = false := hdone.symm
        subst hdone
        left
        rw [run_bind_error f hrun]
        exact ⟨by simpa using hmet, rfl, rfl⟩
    | ok b =>
        have hdone : done = true := hdone.symm
        subst hdone
        have hrest := hf b rfl
        rcases hrest with ⟨hmet', hheap', hdone'⟩ | ⟨a, ha, hbefore, hafter⟩
        · left
          rw [run_bind_ok f hrun]
          refine ⟨?_, hheap', by simpa using hdone'⟩
          intro a ha
          simp only [if_true, List.mem_append] at ha
          rcases ha with ha | ha
          · exact hmet a ha
          · exact hmet' a ha
        · right
          rw [run_bind_ok f hrun]
          exact ⟨a, by simp [ha], hbefore, hafter⟩
  · -- an attribute that is gone stays gone
    right
    rw [hrun] at hafter
    refine ⟨a, by simp [ha], hbefore, ?_⟩
    cases result with
    | error e =>
        rw [run_bind_error f hrun]
        exact hafter
    | ok b =>
        rw [run_bind_ok f hrun]
        exact (hkeeps b heap').vars hafter

theorem map {x : Program α} (f : α → β) {done : Bool} {met : List Nat}
    (hx : Reads heap x done met) : Reads heap (x >>= fun a => Pure.pure (f a)) done met := by
  have hbind := hx.bind (fun a _ => pure (f a)) fun a => Along.pure (f a)
  apply hbind.congr
  · simp
  · simp

theorem get {f : Heap → Program β} {done : Bool} {met : List Nat} (hf : Reads heap (f heap) done met) :
    Reads heap (MonadState.get >>= f) done met :=
  hf

theorem mapM {f : α → Program β} {done : α → Bool} {met : α → List Nat}
    (hf : ∀ a, Reads heap (f a) (done a) (met a)) (hkeeps : ∀ a, Along Follows (f a)) (items : List α) :
    Reads heap (items.mapM f) (items.all done) ((through done items).flatMap met) := by
  induction items with
  | nil => exact pure []
  | cons a items ih =>
      rw [List.mapM_cons]
      have hrest := fun b : β => map (fun bs => b :: bs) ih
      have hall := (hf a).bind (fun b _ => hrest b) fun b =>
        Along.bind (Along.mapM hkeeps items) fun bs => Along.pure (b :: bs)
      apply hall.congr
      · rfl
      · cases hdone : done a with
        | true => simp [through, hdone]
        | false => simp [through, hdone]

theorem default_object (address : Nat) :
    Reads heap (MyEncoder.default (.object address)) true [address] := by
  by_cases hvars : (heap.vars address).Renamable
  · right
    refine ⟨address, by simp, hvars, ?_⟩
    have hafter : (run (MyEncoder.default (.object address)) heap).2.vars address =
        (heap.vars address).renamed := Function.update_self _ _ _
    rw [hafter]
    exact Entries.not_renamable_renamed _
  · left
    refine ⟨by simpa using hvars, ?_, rfl⟩
    show heap.rename (heap.instances address).dict = heap
    have hsame : (heap.entries (heap.instances address).dict).renamed =
        heap.entries (heap.instances address).dict := Entries.renamed_of_not_renamable hvars
    rw [Heap.rename, hsame, Function.update_eq_self]

end Reads

theorem meets_scalar (json : PyJson) (heap : Heap) (depth : Nat) (markers : List Item)
    {item : Item} {value : Value} (h : item.scalar? = some value) :
    meets json heap depth markers item = [] := by
  cases depth with
  | zero => rfl
  | succ depth =>
      unfold meets
      cases item with
      | none | bool | int | float | str => exact ite_self _
      | _ => cases h

/-- The traversal meets the objects that `meets` lists, as long as it has changed
nothing. -/
theorem encodeItem_reads (json : PyJson) (heap : Heap) :
    ∀ depth markers item,
      Reads heap (encodeItem json MyEncoder.default depth markers item)
        (writes json heap depth markers item) (meets json heap depth markers item) := by
  intro depth
  induction depth with
  | zero =>
      intro markers item
      unfold encodeItem writes meets
      cases item.scalar? with
      | some value => exact Reads.ofExcept _
      | none => exact Reads.throw _
  | succ depth ih =>
      intro markers item
      have hkeeps : ∀ markers item, Along Follows (encodeItem json MyEncoder.default depth markers item) :=
        Along.encodeItem MyEncoder.default_along depth
      cases hscalar : item.scalar? with
      | some value =>
          rw [meets_scalar json heap _ markers hscalar]
          unfold encodeItem writes
          rw [hscalar]
          exact Reads.ofExcept _
      | none =>
          unfold encodeItem writes meets
          rw [hscalar]
          by_cases hmarker : item ∈ markers
          · simp only [if_pos hmarker]
            exact Reads.throw _
          simp only [if_neg hmarker]
          cases item with
          | list address =>
              exact Reads.get (Reads.map _ (Reads.mapM (ih _) (hkeeps _) _))
          | tuple address =>
              exact Reads.get (Reads.map _ (Reads.mapM (ih _) (hkeeps _) _))
          | dict address =>
              -- a key is turned into a name without meeting an object
              apply Reads.get
              apply Reads.map
              apply Reads.mapM
              · intro entry
                have hvalue := fun name : Value =>
                  (ih (.dict address :: markers) entry.2).map fun value => (name, value)
                have hname : Reads heap (ofExcept (key json entry.1)) _ [] := Reads.ofExcept _
                have hentry := hname.bind (fun name _ => hvalue name) fun name =>
                  (hkeeps _ entry.2).bind fun value => Along.pure (name, value)
                exact hentry.congr rfl (List.nil_append _)
              · intro entry
                exact (Along.ofExcept _).bind fun name =>
                  (hkeeps _ entry.2).bind fun value => Along.pure (name, value)
          | messageType t =>
              have hint := ih (.messageType t :: markers) (.int t.value)
              rw [meets_scalar json heap depth _ rfl] at hint
              exact hint
          | object address =>
              -- `default` answers with the `__dict__`, which is encoded in its place
              have hdata : ∀ o, (run (MyEncoder.default (.object address)) heap).1 = .ok o →
                  Reads heap (encodeItem json MyEncoder.default depth (.object address :: markers) o)
                    (writes json heap depth (.object address :: markers)
                      (.dict (heap.instances address).dict))
                    (meets json heap depth (.object address :: markers)
                      (.dict (heap.instances address).dict)) := by
                intro o ho
                cases ho
                exact ih _ _
              exact (Reads.default_object address).bind hdata fun o => hkeeps _ o
          | bytes bs => exact .inl ⟨by simp, rfl, rfl⟩
          | _ => cases hscalar

/-! ## The protocols -/

/-- Every object has the attributes it had. -/
def Unchanged (heap heap' : Heap) : Prop :=
  ∀ address, heap'.vars address = heap.vars address

/-- A program that reads as `Reads` says changes no object exactly when it meets none
with an attribute to rename. -/
theorem Reads.unchanged_iff {α : Type} {heap : Heap} {program : Program α} {done : Bool}
    {met : List Nat} (h : Reads heap program done met) :
    Unchanged heap (run program heap).2 ↔ ∀ a ∈ met, ¬ (heap.vars a).Renamable := by
  constructor
  · intro hsame a ha hvars
    rcases h with ⟨hmet, -, -⟩ | ⟨b, -, hbefore, hafter⟩
    · exact hmet a ha hvars
    · rw [hsame b] at hafter
      exact hafter hbefore
  · intro hmet address
    rcases h with ⟨-, hheap, -⟩ | ⟨b, hb, hbefore, -⟩
    · rw [hheap]
    · exact absurd hbefore (hmet b hb)

/-- What follows on a program and touches no heap has no say in it. -/
theorem run_bind_heap {α β : Type} (x : Program α) {f : α → Program β} (hf : ∀ a, Along (· = ·) (f a))
    (heap : Heap) : (run (x >>= f) heap).2 = (run x heap).2 := by
  rcases hrun : run x heap with ⟨result, heap'⟩
  cases result with
  | ok a =>
      rw [run_bind_ok f hrun]
      exact (hf a heap').symm
  | error e => rw [run_bind_error f hrun]

/-- The MessagePack protocol changes nothing. -/
theorem MessagePackHubProtocol.encode_heap (json : PyJson)
    (packb : Heap → List Item → Except Exc (List UInt8)) (depth message : Nat) :
    Along (· = ·) (MessagePackHubProtocol.encode json packb depth message) := by
  apply Along.get
  intro heap
  split
  · have hdict : Along (· = ·) (encodeItem json JSONEncoder.default depth []
        (.dict (heap.instances message).dict)) :=
      Along.encodeItem JSONEncoder.default_along _ _ _
    apply hdict.bind
    intro data
    exact (Along.ofExcept _).bind fun content => Along.pure _
  · exact (Along.ofExcept _).bind fun msg => (Along.ofExcept _).bind fun encodedMessage =>
      Along.pure _

/-- Encoding leaves all objects as they are exactly when the protocol is MessagePack, or
JSON and no object up to the first thing that raises has an attribute `invocation_id` or
`stream_ids`. -/
theorem encode_unchanged_iff (json : PyJson)
    (packb : Heap → List Item → Except Exc (List UInt8)) (protocol : Protocol)
    (depth message : Nat) (heap : Heap) :
    Unchanged heap (run (encode json packb protocol depth message) heap).2 ↔
      (protocol = .json →
        ∀ a ∈ meets json heap depth [] (.object message), ¬ (heap.vars a).Renamable) := by
  cases protocol with
  | json =>
      have hheap : (run (encode json packb .json depth message) heap).2 =
          (run (encodeItem json MyEncoder.default depth [] (.object message)) heap).2 := by
        apply run_bind_heap
        intro data
        exact (Along.ofExcept _).bind fun text => Along.pure _
      rw [hheap, (encodeItem_reads json heap depth [] (.object message)).unchanged_iff]
      simp
  | messagePack =>
      have hheap : (run (encode json packb .messagePack depth message) heap).2 = heap :=
        (MessagePackHubProtocol.encode_heap json packb depth message heap).symm
      rw [hheap]
      simp [Unchanged]

/-- The heap of an `InvocationMessage` that `connection.send` has made: the message, its
headers and its arguments. -/
def Heap.invocation (invocationId target : String) (arguments : List Item) : Heap where
  items := fun _ => arguments
  entries := fun address =>
    if address = 0 then
      [(.str "type", .messageType .invocation), (.str "headers", .dict 1),
        (.str "invocation_id", .str invocationId), (.str "target", .str target),
        (.str "arguments", .list 0)]
    else
      []
  instances := fun _ => ⟨.invocationMessage, 0⟩

/-- Under the JSON protocol the message of a sent invocation has lost its id, and its
`repr` raises. -/
theorem invocation_changed :
    ¬ Unchanged (.invocation "1" "Send" [.int 7])
        (run (encode JsonText.python (fun _ _ => .ok []) .json 9 0)
          (.invocation "1" "Send" [.int 7])).2 ∧
      (run (encode JsonText.python (fun _ _ => .ok []) .json 9 0)
          (.invocation "1" "Send" [.int 7])).1.isOk = true ∧
      InvocationMessage.repr (.invocation "1" "Send" [.int 7]) 0 =
        .ok (.str "1", .str "Send", .list 0) ∧
      InvocationMessage.repr
          (run (encode JsonText.python (fun _ _ => .ok []) .json 9 0)
            (.invocation "1" "Send" [.int 7])).2 0 =
        .error .attributeError := by
  refine ⟨?_, ?_, rfl, rfl⟩
  · intro h
    have := h 0
    revert this
    decide
  · decide

end Live
end GeventSignalR
