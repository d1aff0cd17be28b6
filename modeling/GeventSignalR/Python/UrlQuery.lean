import Mathlib.Data.List.Basic
import GeventSignalR.Python.Utf8

/-!
# Query strings

`parse_qsl`, `parse_qs` and `urlencode` of `urllib.parse`, with the defaults of their
encodings.

* `quotePlus` and `unquotePlus` are the two directions of one component.
* `parseQsl_urlencode`: what `urlencode` writes is read back pair by pair.
* `parseQsl_false`: without `keep_blank_values` the blank values are left out.
* `get_group`: `parse_qs` keeps the values of each name in their order.
-/

namespace Python
namespace UrlQuery

/-! ## One component -/

/-- The bytes `quote` never quotes: letters, digits and `_.-~`. -/
def alwaysSafe (b : UInt8) : Bool :=
  (0x30 ≤ b && b ≤ 0x39) || (0x41 ≤ b && b ≤ 0x5a) || (0x61 ≤ b && b ≤ 0x7a) ||
    b == 0x5f || b == 0x2e || b == 0x2d || b == 0x7e

/-- A hexadecimal digit, as `quote` writes it. -/
def hexDigit (d : Nat) : Char :=
  if d < 10 then Char.ofNat (48 + d) else Char.ofNat (55 + d)

/-- The value of a hexadecimal digit. -/
def hexVal (c : Char) : Option Nat :=
  if c.isDigit then some (c.toNat - 48)
  else if 'a' ≤ c ∧ c ≤ 'f' then some (c.toNat - 87)
  else if 'A' ≤ c ∧ c ≤ 'F' then some (c.toNat - 55)
  else none

/-- What `quote_plus` writes for a byte. -/
def quoteByte (b : UInt8) : List Char :=
  if alwaysSafe b then [Char.ofNat b.toNat]
  else if b = 0x20 then ['+']
  else ['%', hexDigit (b.toNat / 16), hexDigit (b.toNat % 16)]

/-- `quote_plus(s)`. -/
def quotePlus (s : String) : List Char :=
  (Utf8.encode s.toList).flatMap quoteByte

/-- `unquote_to_bytes` of ASCII characters.  A percent sign that no two hexadecimal
digits follow stands for itself. -/
def unquoteToBytes : List Char → List UInt8
  | '%' :: a :: b :: rest =>
      match hexVal a, hexVal b with
      | some x, some y => UInt8.ofNat (16 * x + y) :: unquoteToBytes rest
      | _, _ => 0x25 :: unquoteToBytes (a :: b :: rest)
  | c :: rest => UInt8.ofNat c.toNat :: unquoteToBytes rest
  | [] => []

/-- `unquote` of the rest of a string, behind a run of ASCII characters.  Each longest
run is decoded on its own, other characters stand for themselves. -/
def unquoteFrom (run : List Char) : List Char → List Char
  | [] => Utf8.decode (unquoteToBytes run)
  | c :: rest =>
      if c.toNat < 0x80 then unquoteFrom (run ++ [c]) rest
      else Utf8.decode (unquoteToBytes run) ++ c :: unquoteFrom [] rest

/-- `unquote(cs)`. -/
def unquote (cs : List Char) : List Char :=
  unquoteFrom [] cs

/-- `c.replace("+", " ")` of one character. -/
def plusToSpace (c : Char) : Char :=
  if c = '+' then ' ' else c

/-- `unquote(cs.replace("+", " "))`. -/
def unquotePlus (cs : List Char) : String :=
  String.ofList (unquote (cs.map plusToSpace))

theorem hexVal_hexDigit : ∀ d, d < 16 → hexVal (hexDigit d) = some d := by
  decide

/-- A byte that is not quoted is the code of a letter, a digit or one of four signs. -/
theorem toNat_of_alwaysSafe {b : UInt8} (h : alwaysSafe b = true) :
    (Char.ofNat b.toNat).toNat = b.toNat ∧ b.toNat < 0x80 ∧
      b.toNat ≠ 0x25 ∧ b.toNat ≠ 0x2b ∧ b.toNat ≠ 0x26 ∧ b.toNat ≠ 0x3d ∧ b.toNat ≠ 0x23 ∧
        0x20 < b.toNat := by
  simp only [alwaysSafe, Bool.or_eq_true, Bool.and_eq_true, decide_eq_true_eq, beq_iff_eq,
    UInt8.le_iff_toNat_le, ← UInt8.toNat_inj, UInt8.reduceToNat] at h
  have hlt : b.toNat < 0x80 := by omega
  have hvalid : b.toNat.isValidChar := .inl (by omega)
  have hchar : (Char.ofNat b.toNat).toNat = b.toNat := by
    rw [Char.ofNat, dif_pos hvalid]
    rfl
  refine ⟨hchar, hlt, ?_⟩
  omega

theorem ne_of_toNat_ne {c d : Char} (h : c.toNat ≠ d.toNat) : c ≠ d := by
  rintro rfl
  exact h rfl

/-- What is written for a byte is ASCII and separates nothing. -/
theorem mem_quoteByte {b : UInt8} {c : Char} (h : c ∈ quoteByte b) :
    0x20 < c.toNat ∧ c.toNat < 0x80 ∧ c ≠ '&' ∧ c ≠ '=' ∧ c ≠ '#' := by
  unfold quoteByte at h
  split_ifs at h with hsafe hspace
  · obtain ⟨hchar, hlt, -, -, hamp, heq, hhash, hlow⟩ := toNat_of_alwaysSafe hsafe
    simp only [List.mem_singleton] at h
    subst h
    rw [hchar]
    refine ⟨hlow, hlt, ?_, ?_, ?_⟩ <;> apply ne_of_toNat_ne <;> rw [hchar] <;> assumption
  · simp only [List.mem_singleton] at h
    subst h
    decide
  · have hb : b.toNat < 256 := b.toNat_lt
    have hdigit : ∀ d, d < 16 → 0x20 < (hexDigit d).toNat ∧ (hexDigit d).toNat < 0x80 ∧
        hexDigit d ≠ '&' ∧ hexDigit d ≠ '=' ∧ hexDigit d ≠ '#' := by
      decide
    simp only [List.mem_cons, List.not_mem_nil, or_false] at h
    rcases h with rfl | rfl | rfl
    · decide
    · exact hdigit _ (by omega)
    · exact hdigit _ (by omega)

theorem mem_quotePlus {s : String} {c : Char} (h : c ∈ quotePlus s) :
    0x20 < c.toNat ∧ c.toNat < 0x80 ∧ c ≠ '&' ∧ c ≠ '=' ∧ c ≠ '#' := by
  obtain ⟨b, -, hb⟩ := List.mem_flatMap.mp h
  exact mem_quoteByte hb

/-- A character that is no percent sign stands for itself. -/
theorem unquoteToBytes_cons {c : Char} (h : c ≠ '%') (rest : List Char) :
    unquoteToBytes (c :: rest) = UInt8.ofNat c.toNat :: unquoteToBytes rest := by
  rw [unquoteToBytes]
  rintro a b rest' rfl
  exact absurd rfl h

/-- A byte that was quoted is read back. -/
theorem unquoteToBytes_quoteByte (b : UInt8) (rest : List Char) :
    unquoteToBytes ((quoteByte b).map plusToSpace ++ rest) = b :: unquoteToBytes rest := by
  unfold quoteByte
  split_ifs with hsafe hspace
  · obtain ⟨hchar, -, hpercent, hplus, -⟩ := toNat_of_alwaysSafe hsafe
    have hne : Char.ofNat b.toNat ≠ '+' := by
      apply ne_of_toNat_ne
      rw [hchar]
      exact hplus
    have hnot : Char.ofNat b.toNat ≠ '%' := by
      apply ne_of_toNat_ne
      rw [hchar]
      exact hpercent
    simp only [List.map_cons, List.map_nil, plusToSpace, if_neg hne, List.cons_append,
      List.nil_append]
    rw [unquoteToBytes_cons hnot, hchar, UInt8.ofNat_toNat]
  · subst hspace
    show unquoteToBytes (' ' :: rest) = _
    rw [unquoteToBytes_cons (by decide)]
    rfl
  · have hb : b.toNat < 256 := b.toNat_lt
    have hplain : ∀ d, d < 16 → plusToSpace (hexDigit d) = hexDigit d := by decide
    have hpercent : plusToSpace '%' = '%' := rfl
    have hsum : 16 * (b.toNat / 16) + b.toNat % 16 = b.toNat := by omega
    simp only [List.map_cons, List.map_nil, hpercent, hplain (b.toNat / 16) (by omega),
      hplain (b.toNat % 16) (by omega), List.cons_append, List.nil_append, unquoteToBytes,
      hexVal_hexDigit (b.toNat / 16) (by omega), hexVal_hexDigit (b.toNat % 16) (by omega), hsum,
      UInt8.ofNat_toNat]

theorem unquoteToBytes_flatMap (bytes : List UInt8) :
    unquoteToBytes ((bytes.flatMap quoteByte).map plusToSpace) = bytes := by
  induction bytes with
  | nil => rfl
  | cons b bytes ih =>
      rw [List.flatMap_cons, List.map_append, unquoteToBytes_quoteByte, ih]

/-- A run of ASCII characters to the end of the string. -/
theorem unquoteFrom_ascii (run cs : List Char) (h : ∀ c ∈ cs, c.toNat < 0x80) :
    unquoteFrom run cs = Utf8.decode (unquoteToBytes (run ++ cs)) := by
  induction cs generalizing run with
  | nil => simp [unquoteFrom]
  | cons c cs ih =>
      rw [unquoteFrom, if_pos (h c (by simp)), ih _ fun d hd => h d (by simp [hd])]
      simp

/-- What is quoted is read back. -/
@[simp] theorem unquotePlus_quotePlus (s : String) : unquotePlus (quotePlus s) = s := by
  have hascii : ∀ c ∈ (quotePlus s).map plusToSpace, c.toNat < 0x80 := by
    intro c hc
    obtain ⟨d, hd, rfl⟩ := List.mem_map.mp hc
    unfold plusToSpace
    split_ifs
    · decide
    · exact (mem_quotePlus hd).2.1
  rw [unquotePlus, unquote, unquoteFrom_ascii _ _ hascii, List.nil_append, quotePlus,
    unquoteToBytes_flatMap, Utf8.decode_encode, String.ofList_toList]

theorem unquoteToBytes_ne_nil {cs : List Char} (h : cs ≠ []) : unquoteToBytes cs ≠ [] := by
  unfold unquoteToBytes
  split
  · split <;> simp
  · simp
  · exact absurd rfl h

/-- Only the empty string is unquoted to the empty string. -/
theorem unquoteFrom_ne_nil {run cs : List Char} (h : run ++ cs ≠ []) : unquoteFrom run cs ≠ [] := by
  induction cs generalizing run with
  | nil =>
      rw [unquoteFrom]
      exact Utf8.decode_ne_nil (unquoteToBytes_ne_nil (by simpa using h))
  | cons c cs ih =>
      rw [unquoteFrom]
      split_ifs
      · exact ih (by simp)
      · simp

theorem unquotePlus_eq_empty {cs : List Char} : unquotePlus cs = "" ↔ cs = [] := by
  constructor
  · intro h
    by_contra hne
    have hunquote : unquoteFrom [] (cs.map plusToSpace) ≠ [] :=
      unquoteFrom_ne_nil (by simpa using hne)
    apply hunquote
    rw [unquotePlus, ← String.toList_inj, String.toList_ofList] at h
    exact h
  · rintro rfl
    simp [unquotePlus, unquote, unquoteFrom, unquoteToBytes]

/-! ## Pairs -/

/-- One field of a query string; a field without a value is dropped unless blank values
are kept. -/
def parseField (keepBlankValues : Bool) (field : List Char) : Option (String × String) :=
  let name := field.takeWhile (· != '=')
  let value := (field.dropWhile (· != '=')).drop 1
  if field = [] then none
  else if value = [] ∧ keepBlankValues = false then none
  else some (unquotePlus name, unquotePlus value)

/-- `parse_qsl(query, keep_blank_values)`. -/
def parseQsl (keepBlankValues : Bool) (query : String) : List (String × String) :=
  (query.toList.splitOn '&').filterMap (parseField keepBlankValues)

/-- The field of a pair. -/
def quoteField (name value : String) : List Char :=
  quotePlus name ++ '=' :: quotePlus value

theorem amp_not_mem_quoteField (name value : String) : '&' ∉ quoteField name value := by
  intro h
  rcases List.mem_append.mp h with h | h
  · exact (mem_quotePlus h).2.2.1 rfl
  · rcases List.mem_cons.mp h with h | h
    · exact absurd h (by decide)
    · exact (mem_quotePlus h).2.2.1 rfl

/-- A field that was written is read back. -/
theorem parseField_quoteField (name value : String) :
    parseField true (quoteField name value) = some (name, value) := by
  have hname : ∀ c ∈ quotePlus name, (c != '=') = true := by
    intro c hc
    simpa using (mem_quotePlus hc).2.2.2.1
  have hne : quoteField name value ≠ [] := by simp [quoteField]
  have htake : (quoteField name value).takeWhile (· != '=') = quotePlus name := by
    rw [quoteField, List.takeWhile_append_of_pos hname]
    simp
  have hdrop : (quoteField name value).dropWhile (· != '=') = '=' :: quotePlus value := by
    rw [quoteField, List.dropWhile_append_of_pos hname]
    simp
  simp only [parseField, if_neg hne, htake, hdrop, List.drop_one, List.tail_cons,
    unquotePlus_quotePlus]
  simp

/-- Dropping the fields without a value is dropping the pairs with a blank one. -/
theorem parseQsl_false (query : String) :
    parseQsl false query = (parseQsl true query).filter (·.2 != "") := by
  have hfield : ∀ field, parseField false field =
      (parseField true field).bind fun pair => if pair.2 != "" then some pair else none := by
    intro field
    unfold parseField
    generalize (field.dropWhile (· != '=')).drop 1 = value
    by_cases hnil : field = []
    · simp [hnil]
    by_cases hblank : value = []
    · have hempty : unquotePlus value = "" := unquotePlus_eq_empty.mpr hblank
      simp [hnil, hblank, ← hempty]
    · have hne : unquotePlus value ≠ "" := fun h => hblank (unquotePlus_eq_empty.mp h)
      simp [hnil, hblank, hne]
  unfold parseQsl
  rw [List.filter_filterMap]
  congr 1
  funext field
  rw [hfield]
  cases parseField true field with
  | none => rfl
  | some pair => simp [Option.filter]

/-- The values of a name, in their order. -/
def values (name : String) (pairs : List (String × String)) : List String :=
  (pairs.filter (·.1 == name)).map (·.2)

/-! ## Dictionaries of lists -/

/-- `d[name].append(value)`, where a new name goes last. -/
def append : List (String × List String) → String → String → List (String × List String)
  | [], name, value => [(name, [value])]
  | (key, vs) :: d, name, value =>
      if key = name then (key, vs ++ [value]) :: d else (key, vs) :: append d name value

/-- The dictionary of a list of pairs. -/
def group (pairs : List (String × String)) : List (String × List String) :=
  pairs.foldl (fun d pair => append d pair.1 pair.2) []

/-- `parse_qs(query)`. -/
def parseQs (query : String) : List (String × List String) :=
  group (parseQsl false query)

/-- `urlencode(d, doseq=True)`. -/
def urlencode (d : List (String × List String)) : String :=
  String.ofList (['&'].intercalate (d.flatMap fun entry => entry.2.map (quoteField entry.1)))

/-- The pairs of a dictionary. -/
def pairsOf (d : List (String × List String)) : List (String × String) :=
  d.flatMap fun entry => entry.2.map (entry.1, ·)

/-- `d.get(name, [])`. -/
def get (d : List (String × List String)) (name : String) : List String :=
  (d.lookup name).getD []

/-- What `urlencode` writes is read back pair by pair. -/
theorem parseQsl_urlencode (d : List (String × List String)) :
    parseQsl true (urlencode d) = pairsOf d := by
  have hfields : (d.flatMap fun entry => entry.2.map (quoteField entry.1)) =
      (pairsOf d).map fun pair => quoteField pair.1 pair.2 := by
    simp [pairsOf, List.map_flatMap, Function.comp_def]
  rw [parseQsl, urlencode, String.toList_ofList, hfields]
  cases hpairs : pairsOf d with
  | nil => simp [parseField]
  | cons pair pairs =>
      have hamp : ∀ field ∈ (pair :: pairs).map (fun pair => quoteField pair.1 pair.2),
          '&' ∉ field := by
        intro field hfield
        obtain ⟨p, -, rfl⟩ := List.mem_map.mp hfield
        exact amp_not_mem_quoteField _ _
      rw [List.splitOn_intercalate '&' hamp (by simp), List.filterMap_map]
      simp only [Function.comp_def, parseField_quoteField]
      simp

/-- What `urlencode` writes is ASCII without blanks and without a hash sign. -/
theorem mem_urlencode {d : List (String × List String)} {c : Char}
    (h : c ∈ (urlencode d).toList) : 0x20 < c.toNat ∧ c ≠ '#' := by
  have hfield : ∀ name value, c ∈ quoteField name value → 0x20 < c.toNat ∧ c ≠ '#' := by
    intro name value hc
    rcases List.mem_append.mp hc with hc | hc
    · exact ⟨(mem_quotePlus hc).1, (mem_quotePlus hc).2.2.2.2⟩
    · rcases List.mem_cons.mp hc with rfl | hc
      · decide
      · exact ⟨(mem_quotePlus hc).1, (mem_quotePlus hc).2.2.2.2⟩
  rw [urlencode, String.toList_ofList] at h
  generalize hfs : (d.flatMap fun entry => entry.2.map (quoteField entry.1)) = fields at h
  have hall : ∀ field ∈ fields, c ∈ field → 0x20 < c.toNat ∧ c ≠ '#' := by
    intro field hmem hc
    rw [← hfs] at hmem
    obtain ⟨entry, -, hentry⟩ := List.mem_flatMap.mp hmem
    obtain ⟨value, -, rfl⟩ := List.mem_map.mp hentry
    exact hfield _ _ hc
  clear hfs
  induction fields with
  | nil => simp at h
  | cons field fields ih =>
      cases fields with
      | nil =>
          rw [List.intercalate_singleton] at h
          exact hall field (by simp) h
      | cons next fields =>
          rw [List.intercalate_cons_of_ne_nil (by simp)] at h
          simp only [List.mem_append, List.mem_singleton] at h
          rcases h with (h | rfl) | h
          · exact hall field (by simp) h
          · decide
          · exact ih h fun f hf hc => hall f (List.mem_cons_of_mem _ hf) hc

theorem get_append (d : List (String × List String)) (name value key : String) :
    get (append d name value) key = get d key ++ if name = key then [value] else [] := by
  induction d with
  | nil =>
      by_cases h : name = key
      · subst h
        simp [append, get]
      · have hne : (key == name) = false := by simpa using fun he => h he.symm
        simp [append, get, List.lookup_cons, hne, h]
  | cons entry d ih =>
      obtain ⟨k, vs⟩ := entry
      unfold get at ih ⊢
      by_cases hk : k = name
      · subst hk
        rw [append, if_pos rfl, List.lookup_cons, List.lookup_cons]
        by_cases h : key = k
        · subst h
          simp
        · have hne : (key == k) = false := by simpa using h
          have hne' : ¬k = key := fun he => h he.symm
          simp [hne, hne']
      · rw [append, if_neg hk, List.lookup_cons, List.lookup_cons]
        by_cases h : key = k
        · subst h
          have hne : ¬name = key := fun he => hk he.symm
          simp [hne]
        · have hne : (key == k) = false := by simpa using h
          simp only [hne]
          exact ih

/-- A dictionary collects the values of each name in their order. -/
theorem get_group (pairs : List (String × String)) (name : String) :
    get (group pairs) name = values name pairs := by
  have hfold : ∀ d, get (pairs.foldl (fun d pair => append d pair.1 pair.2) d) name =
      get d name ++ values name pairs := by
    induction pairs with
    | nil => simp [values]
    | cons pair pairs ih =>
        intro d
        rw [List.foldl_cons, ih, get_append, List.append_assoc]
        congr 1
        by_cases h : pair.1 = name <;> simp [values, h]
  have hempty : get [] name = [] := rfl
  rw [group, hfold [], hempty, List.nil_append]

theorem keys_append (d : List (String × List String)) (name value : String) :
    (append d name value).map Prod.fst =
      if name ∈ d.map Prod.fst then d.map Prod.fst else d.map Prod.fst ++ [name] := by
  induction d with
  | nil => simp [append]
  | cons entry d ih =>
      obtain ⟨key, vs⟩ := entry
      by_cases h : key = name
      · subst h
        simp [append]
      · have hne : ¬name = key := fun he => h he.symm
        rw [append, if_neg h, List.map_cons, ih]
        by_cases hmem : name ∈ d.map Prod.fst
        · rw [if_pos hmem, if_pos (by simpa [hne] using hmem)]
          rfl
        · rw [if_neg hmem, if_neg (by simpa [hne] using hmem)]
          rfl

/-- The names of a dictionary are distinct. -/
theorem nodup_group (pairs : List (String × String)) : ((group pairs).map Prod.fst).Nodup := by
  have hfold : ∀ d : List (String × List String), (d.map Prod.fst).Nodup →
      ((pairs.foldl (fun d pair => append d pair.1 pair.2) d).map Prod.fst).Nodup := by
    induction pairs with
    | nil => exact fun d hd => hd
    | cons pair pairs ih =>
        intro d hd
        apply ih
        rw [keys_append]
        split_ifs with hmem
        · exact hd
        · rw [List.nodup_append]
          refine ⟨hd, by simp, ?_⟩
          intro a ha b hb hab
          rw [List.mem_singleton] at hb
          subst hb
          subst hab
          exact hmem ha
  exact hfold [] (by simp)

/-- The pairs of a dictionary with distinct names have the values of each name in
their order. -/
theorem values_pairsOf {d : List (String × List String)} (hd : (d.map Prod.fst).Nodup)
    (name : String) : values name (pairsOf d) = get d name := by
  induction d with
  | nil => rfl
  | cons entry d ih =>
      obtain ⟨key, vs⟩ := entry
      rw [List.map_cons, List.nodup_cons] at hd
      have hsplit : values name (pairsOf ((key, vs) :: d)) =
          values name (vs.map (key, ·)) ++ values name (pairsOf d) := by
        simp [pairsOf, values]
      rw [hsplit, ih hd.2, get, get, List.lookup_cons]
      by_cases h : name = key
      · subst h
        have hnone : d.lookup name = none := by
          rw [List.lookup_eq_none_iff]
          intro p hp
          have hmem : p.1 ∈ d.map Prod.fst := List.mem_map_of_mem hp
          have hne : p.1 ≠ name := fun he => hd.1 (he ▸ hmem)
          simpa using hne.symm
        simp [values, hnone, List.filter_map, Function.comp_def]
      · have hne : (name == key) = false := by simpa using h
        have hne' : ¬key = name := fun he => h he.symm
        simp [values, hne, hne', List.filter_map, Function.comp_def]

/-! ## Reading a dictionary back -/

/-- A dictionary that `parse_qs` can return: its names are distinct, each has a value, and no
value is blank. -/
structure Canonical (d : List (String × List String)) : Prop where
  names : (d.map Prod.fst).Nodup
  values : ∀ entry ∈ d, entry.2 ≠ [] ∧ "" ∉ entry.2

/-- A new name goes last. -/
theorem append_of_not_mem {d : List (String × List String)} {name : String}
    (h : name ∉ d.map Prod.fst) (value : String) :
    append d name value = d ++ [(name, [value])] := by
  induction d with
  | nil => rfl
  | cons entry d ih =>
      rw [List.map_cons, List.mem_cons, not_or] at h
      have hne : entry.1 ≠ name := fun he => h.1 he.symm
      rw [append, if_neg hne, ih h.2]
      rfl

/-- A further value of the last name. -/
theorem append_last {d : List (String × List String)} {name : String}
    (h : name ∉ d.map Prod.fst) (vs : List String) (value : String) :
    append (d ++ [(name, vs)]) name value = d ++ [(name, vs ++ [value])] := by
  induction d with
  | nil => simp [append]
  | cons entry d ih =>
      rw [List.map_cons, List.mem_cons, not_or] at h
      have hne : entry.1 ≠ name := fun he => h.1 he.symm
      rw [List.cons_append, append, if_neg hne, ih h.2]
      rfl

/-- The pairs of a dictionary behind one that has none of its names. -/
theorem foldl_append_pairsOf {d : List (String × List String)}
    (hvalues : ∀ entry ∈ d, entry.2 ≠ []) (acc : List (String × List String))
    (hnodup : ((acc ++ d).map Prod.fst).Nodup) :
    (pairsOf d).foldl (fun d pair => append d pair.1 pair.2) acc = acc ++ d := by
  induction d generalizing acc with
  | nil => simp [pairsOf]
  | cons entry d ih =>
      obtain ⟨name, vs⟩ := entry
      obtain ⟨v, vs, rfl⟩ := List.exists_cons_of_ne_nil (hvalues _ (List.mem_cons_self ..))
      have hname : name ∉ acc.map Prod.fst := by
        rw [List.map_append, List.map_cons, List.nodup_append] at hnodup
        intro hmem
        exact hnodup.2.2 name hmem name (List.mem_cons_self ..) rfl
      have hmore : ∀ us ws : List String,
          (ws.map (name, ·)).foldl (fun d pair => append d pair.1 pair.2) (acc ++ [(name, us)]) =
            acc ++ [(name, us ++ ws)] := by
        intro us ws
        induction ws generalizing us with
        | nil => simp
        | cons w ws ih =>
            rw [List.map_cons, List.foldl_cons, append_last hname, ih]
            simp
      have hsplit : pairsOf ((name, v :: vs) :: d) =
          (name, v) :: (vs.map (name, ·) ++ pairsOf d) := by
        simp [pairsOf]
      rw [hsplit, List.foldl_cons, List.foldl_append, append_of_not_mem hname, hmore,
        List.singleton_append, ih (fun entry hmem => hvalues entry (List.mem_cons_of_mem _ hmem))]
      · simp
      · simpa using hnodup

namespace Canonical

variable {d : List (String × List String)}

/-- What `urlencode` writes, `parse_qs` reads back. -/
theorem parseQs_urlencode (h : Canonical d) : parseQs (urlencode d) = d := by
  have hblank : (pairsOf d).filter (·.2 != "") = pairsOf d := by
    rw [List.filter_eq_self]
    intro pair hpair
    obtain ⟨entry, hentry, hvalue⟩ := List.mem_flatMap.mp hpair
    obtain ⟨value, hmem, rfl⟩ := List.mem_map.mp hvalue
    have hne : value ≠ "" := fun he => (h.values entry hentry).2 (he ▸ hmem)
    simpa using hne
  rw [parseQs, parseQsl_false, parseQsl_urlencode, hblank, group,
    foldl_append_pairsOf (fun entry hmem => (h.values entry hmem).1) []]
  · rfl
  · exact h.names

/-- Another value of a name, which is not blank. -/
theorem append (h : Canonical d) {name value : String} (hvalue : value ≠ "") :
    Canonical (append d name value) := by
  constructor
  · rw [keys_append]
    split_ifs with hmem
    · exact h.names
    · rw [List.nodup_append]
      refine ⟨h.names, by simp, ?_⟩
      intro a ha b hb hab
      rw [List.mem_singleton] at hb
      subst hb hab
      exact hmem ha
  -- a name that is there takes the value at its end, a new one its own entry
  · obtain ⟨-, hvalues⟩ := h
    induction d with
    | nil => simpa [UrlQuery.append] using hvalue.symm
    | cons entry d ih =>
        obtain ⟨key, vs⟩ := entry
        have hrest : ∀ entry ∈ d, entry.2 ≠ [] ∧ "" ∉ entry.2 :=
          fun entry hmem => hvalues entry (List.mem_cons_of_mem _ hmem)
        rw [UrlQuery.append]
        split_ifs with hkey
        · intro entry hmem
          rcases List.mem_cons.mp hmem with rfl | hmem
          · have hold := hvalues (key, vs) (List.mem_cons_self ..)
            constructor
            · simp
            · simpa using ⟨hold.2, hvalue⟩
          · exact hrest entry hmem
        · intro entry hmem
          rcases List.mem_cons.mp hmem with rfl | hmem
          · exact hvalues _ (List.mem_cons_self ..)
          · exact ih hrest entry hmem

end Canonical

/-- What `parse_qs` returns. -/
theorem canonical_parseQs (query : String) : Canonical (parseQs query) := by
  have hfold : ∀ (pairs : List (String × String)) (d : List (String × List String)),
      (∀ pair ∈ pairs, pair.2 ≠ "") → Canonical d →
        Canonical (pairs.foldl (fun d pair => append d pair.1 pair.2) d) := by
    intro pairs
    induction pairs with
    | nil => exact fun d _ hd => hd
    | cons pair pairs ih =>
        intro d hpairs hd
        have hpair := hpairs pair (List.mem_cons_self ..)
        exact ih _ (fun other hmem => hpairs other (List.mem_cons_of_mem _ hmem)) (hd.append hpair)
  apply hfold
  · intro pair hpair
    rw [parseQsl_false] at hpair
    simpa using (List.mem_filter.mp hpair).2
  · exact ⟨by simp, by simp⟩

end UrlQuery
end Python
