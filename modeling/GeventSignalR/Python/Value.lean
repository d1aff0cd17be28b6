import GeventSignalR.Python.Exception
import Mathlib.Algebra.Group.Int.Defs
import Mathlib.Algebra.Group.Nat.Defs

/-!
# Python values

The objects that messages carry: what `json.loads` and `msgpack.unpackb` build,
the tuples a caller passes as arguments, and objects with attributes.  Only the
operations the package applies to them are defined: `==` with a small integer,
`len`, the truth value, and subscription by a number or by a string key.  `str` is a
parameter.
-/

namespace GeventSignalR

/-- A Python object. -/
inductive Value where
  | none
  | bool (b : Bool)
  | int (i : Int)
  /-- A double, as the bits of its IEEE 754 representation. -/
  | float (bits : UInt64)
  | str (s : String)
  | bytes (bs : List UInt8)
  | list (items : List Value)
  | tuple (items : List Value)
  /-- A dictionary in insertion order. -/
  | dict (entries : List (Value × Value))
  /-- An instance of some class, with its `__dict__`. -/
  | object (attributes : List (String × Value))

/-- `x == n` for the double with the given bits. -/
def floatEqInt (bits : UInt64) (n : Int) : Bool :=
  let exponent : Nat := (bits.toNat / 2 ^ 52) % 2 ^ 11
  let fraction : Nat := bits.toNat % 2 ^ 52
  let sign : Int := if bits.toNat / 2 ^ 63 = 0 then 1 else -1
  if exponent = 2047 then
    false
  else if exponent = 0 then
    fraction == 0 && n == 0
  else
    -- the value is sign * mantissa * 2 ^ (exponent - 1075)
    let mantissa : Int := sign * (fraction + 2 ^ 52)
    if 1075 ≤ exponent then
      n == mantissa * 2 ^ (exponent - 1075)
    else
      n * 2 ^ (1075 - exponent) == mantissa

namespace Value

/-- `value == n`: numbers compare by value, whatever their class. -/
def eqInt (value : Value) (n : Int) : Bool :=
  match value with
  | bool b => n == if b then 1 else 0
  | int i => i == n
  | float bits => floatEqInt bits n
  | _ => false

/-- `value == s` for a string `s`. -/
def eqStr (value : Value) (s : String) : Bool :=
  match value with
  | str t => t == s
  | _ => false

/-- The value in a condition: `None`, zero and whatever is empty are false. -/
def isTrue : Value → Bool
  | none => false
  | bool b => b
  | int i => i != 0
  | float bits => !floatEqInt bits 0
  | str s => s != ""
  | bytes bs => !bs.isEmpty
  | list items => !items.isEmpty
  | tuple items => !items.isEmpty
  | dict entries => !entries.isEmpty
  | object _ => true

/-- `value is None`. -/
def isNone : Value → Bool
  | none => true
  | _ => false

/-- `len(value)`. -/
def len : Value → Except Exc Nat
  | str s => .ok s.length
  | bytes bs => .ok bs.length
  | list items => .ok items.length
  | tuple items => .ok items.length
  | dict entries => .ok entries.length
  | _ => .error .typeError

/-- The element at a position, or `IndexError`. -/
def item (items : List Value) (i : Nat) : Except Exc Value :=
  match items[i]? with
  | some value => .ok value
  | Option.none => .error .indexError

/-- `value[i]` for a natural number `i`. -/
def index (value : Value) (i : Nat) : Except Exc Value :=
  match value with
  | str s => item (s.toList.map fun c => .str (String.singleton c)) i
  | bytes bs => item (bs.map fun b => .int b.toNat) i
  | list items => item items i
  | tuple items => item items i
  | dict entries =>
      match entries.find? fun entry => entry.1.eqInt i with
      | some entry => .ok entry.2
      | Option.none => .error (.keyError (toString i))
  | _ => .error .typeError

/-- A number that can be added to an offset and then used in a slice. -/
def asInt : Value → Except Exc Int
  | bool b => .ok (if b then 1 else 0)
  | int i => .ok i
  | _ => .error .typeError

@[simp] theorem index_list (items : List Value) (i : Nat) :
    (list items).index i = item items i := rfl

@[simp] theorem eqInt_int (i n : Int) : (int i).eqInt n = (i == n) := rfl

end Value

/-- `str()`, which leaves the text of a float, a list or a dictionary open. -/
structure PyStr where
  str : Value → String
  /-- A string is its own text. -/
  str_str : ∀ s, str (.str s) = s
  /-- What is true in a condition has a text. -/
  str_isTrue : ∀ value, value.isTrue = true → str value ≠ ""

/-- The text of `None`, of a truth value, of an integer and of a string; that of anything else
is left out. -/
def Value.plainStr : Value → String
  | .none => "None"
  | .bool b => if b then "True" else "False"
  | .int i => toString i
  | .str s => s
  | _ => "..."

/-- An integer has digits. -/
theorem Value.plainStr_int (i : Int) : plainStr (.int i) ≠ "" := by
  cases i with
  | ofNat n => exact Nat.repr_ne_empty
  | negSucc n =>
      intro h
      have h : ("-" ++ Nat.repr (n + 1)).toList = [] := congrArg String.toList h
      simp at h

/-- A `str()` for responses without floats, lists and dictionaries. -/
def PyStr.plain : PyStr where
  str := Value.plainStr
  str_str := fun _ => rfl
  str_isTrue := by
    intro value h
    cases value with
    | int i => exact Value.plainStr_int i
    | bool b => cases b <;> decide
    | str s => simpa [Value.isTrue, Value.plainStr] using h
    | _ => simp [Value.plainStr]

/-- The entries of a dictionary with string keys, as `json.loads` builds it. -/
abbrev Dict := List (Value × Value)

namespace Dict

/-- `d.get(key)`, with `none` where the key is absent. -/
def get? (d : Dict) (key : String) : Option Value :=
  (d.find? fun entry => entry.1.eqStr key).map (·.2)

/-- `d.get(key)`, whose default is `None`. -/
def get (d : Dict) (key : String) : Value :=
  (d.get? key).getD .none

/-- `d[key]`. -/
def getItem (d : Dict) (key : String) : Except Exc Value :=
  match d.get? key with
  | some value => .ok value
  | none => .error (.keyError key)

/-- `d[key] = value`: an existing key keeps its place, a new one goes last. -/
def set (d : Dict) (key : String) (value : Value) : Dict :=
  if d.any fun entry => entry.1.eqStr key then
    d.map fun entry => if entry.1.eqStr key then (entry.1, value) else entry
  else
    d ++ [(.str key, value)]

/-- `del d[key]`. -/
def erase (d : Dict) (key : String) : Dict :=
  d.filter fun entry => !entry.1.eqStr key

/-- A key that equals two strings. -/
theorem eqStr_unique {key : Value} {s t : String} (hs : key.eqStr s = true)
    (ht : key.eqStr t = true) : s = t := by
  cases key with
  | str u =>
      simp only [Value.eqStr, beq_iff_eq] at hs ht
      exact hs.symm.trans ht
  | _ => simp [Value.eqStr] at hs

/-- Giving an entry a value keeps its key, so a search finds the same entry. -/
theorem find?_assign (d : Dict) (key key' : String) (value : Value) :
    (d.map fun entry => if entry.1.eqStr key then (entry.1, value) else entry).find?
        (fun entry => entry.1.eqStr key') =
      (d.find? fun entry => entry.1.eqStr key').map fun entry =>
        if entry.1.eqStr key then (entry.1, value) else entry := by
  rw [List.find?_map]
  congr 2
  funext entry
  simp only [Function.comp_apply]
  split <;> rfl

theorem get?_set_self (d : Dict) (key : String) (value : Value) :
    (d.set key value).get? key = some value := by
  unfold set get?
  split
  · rename_i hany
    obtain ⟨entry, hfind⟩ := Option.isSome_iff_exists.mp
      (List.find?_isSome.mpr (List.any_eq_true.mp hany))
    have hkey : entry.1.eqStr key = true := by simpa using List.find?_some hfind
    rw [find?_assign, hfind]
    simp [hkey]
  · rename_i hany
    have hnone : (d.find? fun entry => entry.1.eqStr key) = none := by
      rw [List.find?_eq_none]
      intro entry hentry hkey
      exact hany (List.any_eq_true.mpr ⟨entry, hentry, hkey⟩)
    rw [List.find?_append, hnone]
    simp [Value.eqStr]

theorem get?_set_ne (d : Dict) {key key' : String} (hne : key ≠ key') (value : Value) :
    (d.set key value).get? key' = d.get? key' := by
  unfold set get?
  split
  · rw [find?_assign]
    cases hfind : d.find? fun entry => entry.1.eqStr key' with
    | none => rfl
    | some entry =>
        have hkey' : entry.1.eqStr key' = true := by simpa using List.find?_some hfind
        have hkey : ¬entry.1.eqStr key = true := fun h => hne (eqStr_unique h hkey')
        simp [hkey]
  · rw [List.find?_append]
    simp [Value.eqStr, hne]

theorem any_set (d : Dict) (key : String) (value : Value) :
    ((d.set key value).any fun entry => entry.1.eqStr key) = true := by
  unfold set
  split
  · rename_i hany
    obtain ⟨entry, hentry, hkey⟩ := List.any_eq_true.mp hany
    exact List.any_eq_true.mpr ⟨_, List.mem_map_of_mem hentry, by rw [if_pos hkey]; exact hkey⟩
  · simp [Value.eqStr]

/-- The last assignment to a key counts. -/
theorem set_set (d : Dict) (key : String) (value value' : Value) :
    (d.set key value).set key value' = d.set key value' := by
  have hassign : ∀ d : Dict,
      (d.map fun entry => if entry.1.eqStr key then (entry.1, value) else entry).map
          (fun entry => if entry.1.eqStr key then (entry.1, value') else entry) =
        d.map fun entry => if entry.1.eqStr key then (entry.1, value') else entry := by
    intro d
    rw [List.map_map, List.map_inj_left]
    intro entry _
    cases hkey : entry.1.eqStr key <;> simp [hkey]
  rw [set, if_pos (any_set d key value)]
  unfold set
  split
  · exact hassign d
  · rename_i hany
    have hnone : d.map (fun entry => if entry.1.eqStr key then (entry.1, value') else entry) = d := by
      refine (List.map_congr_left fun entry hentry => if_neg fun hkey => ?_).trans (List.map_id d)
      exact hany (List.any_eq_true.mpr ⟨entry, hentry, hkey⟩)
    rw [List.map_append, hnone]
    simp [Value.eqStr]

@[simp] theorem get?_nil (key : String) : get? [] key = none := rfl

@[simp] theorem get?_cons_str (d : Dict) (k key : String) (value : Value) :
    get? ((.str k, value) :: d) key = if k = key then some value else get? d key := by
  by_cases h : k = key <;> simp [get?, Value.eqStr, h]

/-- A value found under a key is one of the values of the dictionary. -/
theorem mem_of_get? {d : Dict} {key : String} {value : Value} (h : d.get? key = some value) :
    ∃ k, (k, value) ∈ d := by
  simp only [get?, Option.map_eq_some_iff] at h
  obtain ⟨entry, hentry, rfl⟩ := h
  exact ⟨entry.1, List.mem_of_find?_eq_some hentry⟩

/-- The values after an assignment are the old ones and the assigned one. -/
theorem mem_set {d : Dict} {key : String} {value : Value} {entry : Value × Value}
    (h : entry ∈ d.set key value) : entry.2 = value ∨ ∃ k, (k, entry.2) ∈ d := by
  unfold set at h
  split at h
  · obtain ⟨old, hold, rfl⟩ := List.mem_map.mp h
    split
    · exact .inl rfl
    · exact .inr ⟨old.1, hold⟩
  · rcases List.mem_append.mp h with h | h
    · exact .inr ⟨entry.1, h⟩
    · simp only [List.mem_singleton] at h
      exact .inl (by rw [h])

end Dict

/-- The values JSON can represent: no NaN, and dictionaries with distinct string
keys. -/
inductive Value.IsJson : Value → Prop where
  | none : IsJson .none
  | bool (b : Bool) : IsJson (.bool b)
  | int (i : Int) : IsJson (.int i)
  | float (bits : UInt64) (h : (bits.toNat / 2 ^ 52) % 2 ^ 11 = 2047 → bits.toNat % 2 ^ 52 = 0) :
      IsJson (.float bits)
  | str (s : String) : IsJson (.str s)
  | list (items : List Value) (h : ∀ item ∈ items, IsJson item) : IsJson (.list items)
  | dict (keys : List String) (values : List Value) (hlength : keys.length = values.length)
      (hkeys : keys.Nodup) (h : ∀ value ∈ values, IsJson value) :
      IsJson (.dict ((keys.map Value.str).zip values))

end GeventSignalR
