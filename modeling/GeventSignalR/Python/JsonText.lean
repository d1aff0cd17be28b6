import GeventSignalR.Python.Value
import Mathlib.Data.List.Basic
import Mathlib.Tactic.SplitIfs

/-!
# JSON text

A writer and a reader of JSON text, with the spelling of Python's `json.dumps`
under its default options.

* `text` writes a value; every character it writes is a printable ASCII one.
* `loads` reads it back.
* `loads_dumps` is the round trip on the values JSON can represent.

A double is spelled by the bits of its representation instead of by its shortest
decimal, which keeps the round trip exact.
-/

namespace GeventSignalR

namespace JsonText

/-! ## Numbers -/

/-- The decimal digits of a natural number. -/
def digits (n : Nat) : List Char :=
  Nat.toDigits 10 n

/-- The number a list of digits denotes. -/
def natOf (cs : List Char) : Nat :=
  cs.foldl (fun acc c => 10 * acc + (c.toNat - 48)) 0

/-- The text of an integer. -/
def intText (i : Int) : List Char :=
  if i < 0 then '-' :: digits i.natAbs else digits i.natAbs

/-- The value of a run of digits and what follows it. -/
def parseDigits (cs : List Char) : Option (Value × List Char) :=
  match cs.takeWhile Char.isDigit, cs.dropWhile Char.isDigit with
  | [], _ => none
  | ds, '.' :: '0' :: rest => some (.float (UInt64.ofNat (natOf ds)), rest)
  | ds, rest => some (.int (natOf ds), rest)

/-- The value of a run of digits behind a minus sign. -/
def parseNegative (cs : List Char) : Option (Value × List Char) :=
  match cs.takeWhile Char.isDigit with
  | [] => none
  | ds => some (.int (-natOf ds), cs.dropWhile Char.isDigit)

/-- The rest of a text does not continue a number. -/
def Ends (rest : List Char) : Prop :=
  ∀ c ∈ rest.head?, c.isDigit = false ∧ c ≠ '.'

theorem ends_nil : Ends [] := by
  simp [Ends]

theorem ends_cons {c : Char} {rest : List Char} (hdigit : c.isDigit = false) (hdot : c ≠ '.') :
    Ends (c :: rest) := by
  intro d hd
  simp only [List.head?_cons, Option.mem_some_iff] at hd
  subst hd
  exact ⟨hdigit, hdot⟩

theorem isDigit_of_mem_digits {n : Nat} {c : Char} (h : c ∈ digits n) : c.isDigit = true :=
  Nat.isDigit_of_mem_toDigits (by decide) (by decide) h

theorem digits_of_lt {n : Nat} (h : n < 10) : digits n = [n.digitChar] :=
  Nat.toDigits_of_lt_base h

theorem digits_of_ge {n : Nat} (h : 10 ≤ n) : digits n = digits (n / 10) ++ [(n % 10).digitChar] :=
  Nat.toDigits_of_base_le (by decide) h

theorem digits_ne_nil (n : Nat) : digits n ≠ [] := by
  rcases Nat.lt_or_ge n 10 with h | h
  · simp [digits_of_lt h]
  · simp [digits_of_ge h]

theorem toNat_digitChar : ∀ d, d < 10 → d.digitChar.toNat - 48 = d := by
  decide

@[simp] theorem natOf_digits (n : Nat) : natOf (digits n) = n := by
  induction n using Nat.strongRecOn with
  | ind n ih =>
      rcases Nat.lt_or_ge n 10 with h | h
      · simp [digits_of_lt h, natOf, toNat_digitChar n h]
      · have hprefix : natOf (digits (n / 10)) = n / 10 := ih (n / 10) (by omega)
        have hlast : (n % 10).digitChar.toNat - 48 = n % 10 :=
          toNat_digitChar (n % 10) (by omega)
        rw [digits_of_ge h, natOf, List.foldl_append, ← natOf, hprefix]
        simp only [List.foldl_cons, List.foldl_nil, hlast]
        omega

/-- The digits of a number are read back up to the first character that is none. -/
theorem span_digits (n : Nat) (rest : List Char) (h : ∀ c ∈ rest.head?, c.isDigit = false) :
    (digits n ++ rest).takeWhile Char.isDigit = digits n ∧
      (digits n ++ rest).dropWhile Char.isDigit = rest := by
  have hall : ∀ c ∈ digits n, c.isDigit = true := fun c hc => isDigit_of_mem_digits hc
  rw [List.takeWhile_append_of_pos hall, List.dropWhile_append_of_pos hall]
  cases rest with
  | nil => simp
  | cons c rest => simp [h c (by simp)]

theorem parseDigits_digits (n : Nat) {rest : List Char} (h : Ends rest) :
    parseDigits (digits n ++ rest) = some (.int n, rest) := by
  obtain ⟨htake, hdrop⟩ := span_digits n rest fun c hc => (h c hc).1
  unfold parseDigits
  rw [htake, hdrop]
  split
  · exact absurd ‹_› (digits_ne_nil n)
  · exact absurd rfl (h '.' (by simp)).2
  · simp_all

theorem parseDigits_float (bits : UInt64) (rest : List Char) :
    parseDigits (digits bits.toNat ++ '.' :: '0' :: rest) = some (.float bits, rest) := by
  obtain ⟨htake, hdrop⟩ := span_digits bits.toNat ('.' :: '0' :: rest) (by simp)
  unfold parseDigits
  rw [htake, hdrop]
  split
  · exact absurd ‹_› (digits_ne_nil _)
  · simp_all
  · simp_all

theorem parseNegative_digits (n : Nat) {rest : List Char} (h : Ends rest) :
    parseNegative (digits n ++ rest) = some (.int (-n), rest) := by
  obtain ⟨htake, hdrop⟩ := span_digits n rest fun c hc => (h c hc).1
  unfold parseNegative
  rw [htake, hdrop]
  split
  · exact absurd ‹_› (digits_ne_nil n)
  · simp

/-! ## Strings -/

/-- The letters of the short escapes. -/
def shortEscapes : List (Char × Char) :=
  [('"', '"'), ('\\', '\\'), ('\n', 'n'), ('\r', 'r'), ('\t', 't'), ('\x0c', 'f'), ('\x08', 'b')]

/-- A hexadecimal digit. -/
def hexDigit (d : Nat) : Char :=
  if d < 10 then Char.ofNat (48 + d) else Char.ofNat (87 + d)

/-- The value of a hexadecimal digit. -/
def hexVal (c : Char) : Option Nat :=
  if c.isDigit then some (c.toNat - 48)
  else if 'a' ≤ c ∧ c ≤ 'f' then some (c.toNat - 87)
  else if 'A' ≤ c ∧ c ≤ 'F' then some (c.toNat - 55)
  else none

/-- `\uXXXX`. -/
def unicodeEscape (n : Nat) : List Char :=
  ['\\', 'u', hexDigit (n / 4096), hexDigit (n / 256 % 16), hexDigit (n / 16 % 16),
    hexDigit (n % 16)]

/-- The spelling of a character inside a string. -/
def escape (c : Char) : List Char :=
  match shortEscapes.lookup c with
  | some letter => ['\\', letter]
  | none =>
      if 0x20 ≤ c.toNat ∧ c.toNat ≤ 0x7e then
        [c]
      else if c.toNat < 0x10000 then
        unicodeEscape c.toNat
      else
        -- a surrogate pair
        unicodeEscape (0xd800 + (c.toNat - 0x10000) / 1024) ++
          unicodeEscape (0xdc00 + (c.toNat - 0x10000) % 1024)

/-- The text of a string. -/
def strText (s : String) : List Char :=
  '"' :: (s.toList.flatMap escape ++ ['"'])

/-- Four hexadecimal digits. -/
def parseHex : List Char → Option (Nat × List Char)
  | a :: b :: c :: d :: rest => do
      return (4096 * (← hexVal a) + 256 * (← hexVal b) + 16 * (← hexVal c) + (← hexVal d), rest)
  | _ => none

/-- The low surrogate that must follow a high one. -/
def parseLow : List Char → Option (Nat × List Char)
  | '\\' :: 'u' :: rest => do
      let (low, rest) ← parseHex rest
      if 0xdc00 ≤ low ∧ low < 0xe000 then some (low, rest) else none
  | _ => none

/-- One character of a string. -/
def parseChar : List Char → Option (Char × List Char)
  | '\\' :: 'u' :: rest => do
      let (n, rest) ← parseHex rest
      if n < 0xd800 ∨ 0xe000 ≤ n then
        some (Char.ofNat n, rest)
      else if n < 0xdc00 then
        let (low, rest) ← parseLow rest
        some (Char.ofNat (0x10000 + 1024 * (n - 0xd800) + (low - 0xdc00)), rest)
      else
        none
  | '\\' :: letter :: rest =>
      if letter = '/' then
        some ('/', rest)
      else
        (shortEscapes.find? fun pair => pair.2 == letter).map fun pair => (pair.1, rest)
  | c :: rest => if c.toNat < 0x20 then none else some (c, rest)
  | [] => none

/-- The characters up to the closing quote. -/
def parseChars : Nat → List Char → Option (List Char × List Char)
  | 0, _ => none
  | _ + 1, '"' :: rest => some ([], rest)
  | fuel + 1, cs => do
      let (c, cs) ← parseChar cs
      let (chars, cs) ← parseChars fuel cs
      return (c :: chars, cs)

/-- A string, behind its opening quote. -/
def parseString (cs : List Char) : Option (String × List Char) := do
  let (chars, cs) ← parseChars (cs.length + 1) cs
  return (String.ofList chars, cs)

theorem hexVal_hexDigit : ∀ d, d < 16 → hexVal (hexDigit d) = some d := by
  decide

theorem parseHex_hexDigits {n : Nat} (h : n < 65536) (rest : List Char) :
    parseHex (hexDigit (n / 4096) :: hexDigit (n / 256 % 16) :: hexDigit (n / 16 % 16) ::
      hexDigit (n % 16) :: rest) = some (n, rest) := by
  have hsum : 4096 * (n / 4096) + 256 * (n / 256 % 16) + 16 * (n / 16 % 16) + n % 16 = n := by
    omega
  simp only [parseHex, hexVal_hexDigit (n / 4096) (by omega),
    hexVal_hexDigit (n / 256 % 16) (by omega), hexVal_hexDigit (n / 16 % 16) (by omega),
    hexVal_hexDigit (n % 16) (by omega), Option.bind_eq_bind, Option.bind_some, Option.pure_def,
    hsum]

/-- No character is a surrogate. -/
theorem not_surrogate (c : Char) : c.toNat < 0xd800 ∨ 0xe000 ≤ c.toNat := by
  have h := c.valid
  simp only [UInt32.isValidChar, Nat.isValidChar] at h
  simp only [Char.toNat]
  omega

theorem toNat_lt (c : Char) : c.toNat < 0x110000 := by
  have h := c.valid
  simp only [UInt32.isValidChar, Nat.isValidChar] at h
  simp only [Char.toNat]
  omega

theorem parseChar_unicodeEscape {n : Nat} (hn : n < 65536) (h : n < 0xd800 ∨ 0xe000 ≤ n)
    (rest : List Char) :
    parseChar (unicodeEscape n ++ rest) = some (Char.ofNat n, rest) := by
  simp only [unicodeEscape, List.cons_append, List.nil_append, parseChar, parseHex_hexDigits hn,
    Option.bind_eq_bind, Option.bind_some, if_pos h]

theorem parseLow_unicodeEscape {low : Nat} (h : 0xdc00 ≤ low ∧ low < 0xe000) (rest : List Char) :
    parseLow (unicodeEscape low ++ rest) = some (low, rest) := by
  simp only [unicodeEscape, List.cons_append, List.nil_append, parseLow,
    parseHex_hexDigits (n := low) (by omega), Option.bind_eq_bind, Option.bind_some, if_pos h]

theorem parseChar_surrogates {high low : Nat} (hhigh : 0xd800 ≤ high ∧ high < 0xdc00)
    (hlow : 0xdc00 ≤ low ∧ low < 0xe000) (rest : List Char) :
    parseChar (unicodeEscape high ++ (unicodeEscape low ++ rest)) =
      some (Char.ofNat (0x10000 + 1024 * (high - 0xd800) + (low - 0xdc00)), rest) := by
  have hnot : ¬(high < 0xd800 ∨ 0xe000 ≤ high) := by omega
  have hlow' := parseLow_unicodeEscape hlow rest
  rw [show unicodeEscape high ++ (unicodeEscape low ++ rest) = '\\' :: 'u' ::
    hexDigit (high / 4096) :: hexDigit (high / 256 % 16) :: hexDigit (high / 16 % 16) ::
      hexDigit (high % 16) :: (unicodeEscape low ++ rest) from rfl]
  simp only [parseChar, parseHex_hexDigits (n := high) (by omega), Option.bind_eq_bind,
    Option.bind_some, if_neg hnot, if_pos hhigh.2, hlow']

/-- A short escape reads back as the character it stands for. -/
theorem parseChar_shortEscape (pair : Char × Char) (h : pair ∈ shortEscapes) (rest : List Char) :
    parseChar ('\\' :: pair.2 :: rest) = some (pair.1, rest) := by
  simp only [shortEscapes, List.mem_cons, List.not_mem_nil, or_false] at h
  rcases h with rfl | rfl | rfl | rfl | rfl | rfl | rfl <;> rfl

/-- A character that is spelled as itself. -/
theorem parseChar_plain {c : Char} (hslash : c ≠ '\\') (hlow : 0x20 ≤ c.toNat) (rest : List Char) :
    parseChar (c :: rest) = some (c, rest) := by
  have hnot : ¬c.toNat < 0x20 := by omega
  unfold parseChar
  split <;> simp_all

theorem parseChar_escape (c : Char) (rest : List Char) :
    parseChar (escape c ++ rest) = some (c, rest) := by
  unfold escape
  split
  · rename_i letter h
    obtain ⟨l₁, l₂, hsplit, -⟩ := List.lookup_eq_some_iff.mp h
    exact parseChar_shortEscape (c, letter) (by simp [hsplit]) rest
  · rename_i h
    have hslash : c ≠ '\\' := by
      rintro rfl
      simp [shortEscapes] at h
    split_ifs with hplain hbmp
    · exact parseChar_plain hslash hplain.1 rest
    · rw [parseChar_unicodeEscape hbmp (not_surrogate c), Char.ofNat_toNat]
    · have hlt := toNat_lt c
      have hvalue : 0x10000 + 1024 * (0xd800 + (c.toNat - 0x10000) / 1024 - 0xd800) +
          (0xdc00 + (c.toNat - 0x10000) % 1024 - 0xdc00) = c.toNat := by
        omega
      rw [List.append_assoc, parseChar_surrogates (by omega) (by omega), hvalue, Char.ofNat_toNat]

theorem escape_ne_nil (c : Char) : escape c ≠ [] := by
  unfold escape
  split
  · simp
  · split_ifs <;> simp [unicodeEscape]

/-- No character is spelled with a quote in front. -/
theorem head_escape (c : Char) (rest : List Char) : (escape c ++ rest).head? ≠ some '"' := by
  unfold escape
  split
  · simp
  · rename_i h
    split_ifs
    · intro hc
      simp only [List.cons_append, List.nil_append, List.head?_cons, Option.some.injEq] at hc
      subst hc
      simp [shortEscapes] at h
    · simp [unicodeEscape]
    · simp [unicodeEscape]

theorem parseChars_escape (chars rest : List Char) (fuel : Nat) (h : chars.length < fuel) :
    parseChars fuel (chars.flatMap escape ++ '"' :: rest) = some (chars, rest) := by
  induction chars generalizing fuel with
  | nil =>
      cases fuel with
      | zero => simp at h
      | succ fuel => rfl
  | cons c chars ih =>
      cases fuel with
      | zero => simp at h
      | succ fuel =>
          have hrest := ih fuel (by simpa using h)
          have hhead := head_escape c (chars.flatMap escape ++ '"' :: rest)
          rw [List.flatMap_cons, List.append_assoc]
          unfold parseChars
          split
          · simp_all
          · rename_i heq
            simp [heq] at hhead
          · simp_all [parseChar_escape]

theorem length_le_flatMap_escape (chars : List Char) :
    chars.length ≤ (chars.flatMap escape).length := by
  induction chars with
  | nil => simp
  | cons c chars ih =>
      have hpos : 0 < (escape c).length := List.length_pos_iff.mpr (escape_ne_nil c)
      simp only [List.length_cons, List.flatMap_cons, List.length_append]
      omega

theorem parseString_strText (s : String) (rest : List Char) :
    parseString (s.toList.flatMap escape ++ '"' :: rest) = some (s, rest) := by
  have hlength := length_le_flatMap_escape s.toList
  have hfuel : s.toList.length <
      (s.toList.flatMap escape ++ '"' :: rest).length + 1 := by
    simp only [List.length_append]
    omega
  simp only [parseString, parseChars_escape s.toList rest _ hfuel, Option.bind_eq_bind,
    Option.bind_some, Option.pure_def, String.ofList_toList]

/-! ## Values -/

/-- A key and its colon.  Only string keys are written. -/
def keyText : Value → Except Exc (List Char)
  | .str s => .ok (strText s ++ [':', ' '])
  | _ => .error .typeError

mutual

/-- The text of a value, or the `TypeError` of a value JSON does not have. -/
def text : Value → Except Exc (List Char)
  | .none => .ok ['n', 'u', 'l', 'l']
  | .bool true => .ok ['t', 'r', 'u', 'e']
  | .bool false => .ok ['f', 'a', 'l', 's', 'e']
  | .int i => .ok (intText i)
  | .float bits => .ok (digits bits.toNat ++ ['.', '0'])
  | .str s => .ok (strText s)
  | .list [] => .ok ['[', ']']
  | .list (item :: items) => do return '[' :: ((← text item) ++ (← itemsText items))
  | .tuple [] => .ok ['[', ']']
  | .tuple (item :: items) => do return '[' :: ((← text item) ++ (← itemsText items))
  | .dict [] => .ok ['{', '}']
  | .dict ((key, value) :: entries) => do
      let key ← keyText key
      return '{' :: (key ++ (← text value) ++ (← entriesText entries))
  | .bytes _ => .error .typeError
  | .object _ => .error .typeError

/-- The items behind the first one. -/
def itemsText : List Value → Except Exc (List Char)
  | [] => .ok [']']
  | item :: items => do return ',' :: ' ' :: ((← text item) ++ (← itemsText items))

/-- The entries behind the first one. -/
def entriesText : List (Value × Value) → Except Exc (List Char)
  | [] => .ok ['}']
  | (key, value) :: entries => do
      let key ← keyText key
      return ',' :: ' ' :: (key ++ (← text value) ++ (← entriesText entries))

end

/-- Whitespace between tokens is skipped. -/
def skipSpace : List Char → List Char
  | c :: cs => if c = ' ' ∨ c = '\n' ∨ c = '\r' ∨ c = '\t' then skipSpace cs else c :: cs
  | [] => []

/-- A key with its colon. -/
def parseKey : List Char → Option (String × List Char)
  | '"' :: cs => do
      let (key, cs) ← parseString cs
      match skipSpace cs with
      | ':' :: cs => some (key, skipSpace cs)
      | _ => none
  | _ => none

mutual

/-- A value that starts the text. -/
def parseValue : Nat → List Char → Option (Value × List Char)
  | 0, _ => none
  | _ + 1, 'n' :: 'u' :: 'l' :: 'l' :: cs => some (.none, cs)
  | _ + 1, 't' :: 'r' :: 'u' :: 'e' :: cs => some (.bool true, cs)
  | _ + 1, 'f' :: 'a' :: 'l' :: 's' :: 'e' :: cs => some (.bool false, cs)
  | _ + 1, '"' :: cs => do
      let (s, cs) ← parseString cs
      return (.str s, cs)
  | fuel + 1, '[' :: cs =>
      match skipSpace cs with
      | ']' :: cs => some (.list [], cs)
      | cs => do
          let (item, cs) ← parseValue fuel cs
          let (items, cs) ← parseItems fuel cs
          return (.list (item :: items), cs)
  | fuel + 1, '{' :: cs =>
      match skipSpace cs with
      | '}' :: cs => some (.dict [], cs)
      | cs => do
          let (key, cs) ← parseKey cs
          let (value, cs) ← parseValue fuel cs
          let (entries, cs) ← parseEntries fuel cs
          -- a repeated key keeps its place and its last value
          let d : Dict := entries.foldl (fun d entry => Dict.set d entry.1 entry.2)
            [(.str key, value)]
          return (.dict d, cs)
  | _ + 1, '-' :: cs => parseNegative cs
  | _ + 1, cs => parseDigits cs

/-- The items behind the first one. -/
def parseItems : Nat → List Char → Option (List Value × List Char)
  | 0, _ => none
  | fuel + 1, cs =>
      match skipSpace cs with
      | ']' :: cs => some ([], cs)
      | ',' :: cs => do
          let (item, cs) ← parseValue fuel (skipSpace cs)
          let (items, cs) ← parseItems fuel cs
          return (item :: items, cs)
      | _ => none

/-- The entries behind the first one. -/
def parseEntries : Nat → List Char → Option (List (String × Value) × List Char)
  | 0, _ => none
  | fuel + 1, cs =>
      match skipSpace cs with
      | '}' :: cs => some ([], cs)
      | ',' :: cs => do
          let (key, cs) ← parseKey (skipSpace cs)
          let (value, cs) ← parseValue fuel cs
          let (entries, cs) ← parseEntries fuel cs
          return ((key, value) :: entries, cs)
      | _ => none

end

/-- `json.dumps`. -/
def dumps (value : Value) : Except Exc String :=
  (text value).map String.ofList

/-- `json.loads`. -/
def loads (s : String) : Except Exc Value :=
  match parseValue (s.toList.length + 1) (skipSpace s.toList) with
  | some (value, rest) =>
      if skipSpace rest = [] then .ok value else .error (.valueError "Extra data")
  | none => .error (.valueError "Expecting value")

/-! ## What is no JSON -/

theorem keyText_error {key : Value} {e : Exc} (h : keyText key = .error e) : e = .typeError := by
  cases key <;> simp [keyText] at h <;> exact h.symm

mutual

theorem text_error {value : Value} {e : Exc} (h : text value = .error e) : e = .typeError := by
  cases value with
  | none => simp [text] at h
  | bool b => cases b <;> simp [text] at h
  | int i => simp [text] at h
  | float bits => simp [text] at h
  | str s => simp [text] at h
  | bytes bs =>
      simp only [text, Except.error.injEq] at h
      exact h.symm
  | object attributes =>
      simp only [text, Except.error.injEq] at h
      exact h.symm
  | list items =>
      cases items with
      | nil => simp [text] at h
      | cons item items =>
          rcases bind_eq_error h with h | ⟨_, h⟩
          · exact text_error h
          rcases bind_eq_error h with h | ⟨_, h⟩
          · exact itemsText_error h
          · cases h
  | tuple items =>
      cases items with
      | nil => simp [text] at h
      | cons item items =>
          rcases bind_eq_error h with h | ⟨_, h⟩
          · exact text_error h
          rcases bind_eq_error h with h | ⟨_, h⟩
          · exact itemsText_error h
          · cases h
  | dict entries =>
      rcases entries with _ | ⟨⟨key, value⟩, entries⟩
      · simp [text] at h
      · rcases bind_eq_error h with h | ⟨_, h⟩
        · exact keyText_error h
        rcases bind_eq_error h with h | ⟨_, h⟩
        · exact text_error h
        rcases bind_eq_error h with h | ⟨_, h⟩
        · exact entriesText_error h
        · cases h

theorem itemsText_error {items : List Value} {e : Exc} (h : itemsText items = .error e) :
    e = .typeError := by
  cases items with
  | nil => simp [itemsText] at h
  | cons item items =>
      rcases bind_eq_error h with h | ⟨_, h⟩
      · exact text_error h
      rcases bind_eq_error h with h | ⟨_, h⟩
      · exact itemsText_error h
      · cases h

theorem entriesText_error {entries : List (Value × Value)} {e : Exc}
    (h : entriesText entries = .error e) : e = .typeError := by
  rcases entries with _ | ⟨⟨key, value⟩, entries⟩
  · simp [entriesText] at h
  · rcases bind_eq_error h with h | ⟨_, h⟩
    · exact keyText_error h
    rcases bind_eq_error h with h | ⟨_, h⟩
    · exact text_error h
    rcases bind_eq_error h with h | ⟨_, h⟩
    · exact entriesText_error h
    · cases h

end

/-- `dumps` raises a `TypeError` or nothing. -/
theorem dumps_error {value : Value} {e : Exc} (h : dumps value = .error e) : e = .typeError :=
  text_error (map_eq_error h)

/-- `loads` raises a `ValueError` or nothing. -/
theorem loads_exception (s : String) : ExceptionsOnly (loads s) := by
  unfold loads
  split
  · split_ifs
    · exact .ok _
    · exact .error rfl
  · exact .error rfl

/-! ## The round trip -/

theorem skipSpace_cons {c : Char} (h : c ≠ ' ' ∧ c ≠ '\n' ∧ c ≠ '\r' ∧ c ≠ '\t')
    (cs : List Char) : skipSpace (c :: cs) = c :: cs := by
  simp [skipSpace, h]

/-- No character of the text is a control character. -/
def Printable (t : List Char) : Prop :=
  ∀ c ∈ t, 0x20 ≤ c.toNat

/-- The text starts with a character that starts a value. -/
def StartsValue (t : List Char) : Prop :=
  ∃ c cs, t = c :: cs ∧ (c ≠ ' ' ∧ c ≠ '\n' ∧ c ≠ '\r' ∧ c ≠ '\t') ∧ c ≠ ']' ∧ c ≠ '}'

/-- The text is read back as the value. -/
structure Reads (value : Value) (t : List Char) : Prop where
  printable : Printable t
  starts : StartsValue t
  parse : ∀ fuel rest, t.length ≤ fuel → Ends rest →
    parseValue fuel (t ++ rest) = some (value, rest)

theorem Printable.append {t u : List Char} (ht : Printable t) (hu : Printable u) :
    Printable (t ++ u) := by
  intro c hc
  rcases List.mem_append.mp hc with hc | hc
  · exact ht c hc
  · exact hu c hc

theorem Printable.cons {c : Char} {t : List Char} (hc : 0x20 ≤ c.toNat) (ht : Printable t) :
    Printable (c :: t) :=
  Printable.append (t := [c]) (by simpa [Printable] using hc) ht

theorem StartsValue.skipSpace {t : List Char} (h : StartsValue t) (rest : List Char) :
    skipSpace (t ++ rest) = t ++ rest := by
  obtain ⟨c, cs, rfl, hspace, -⟩ := h
  exact skipSpace_cons hspace (cs ++ rest)

theorem StartsValue.length_pos {t : List Char} (h : StartsValue t) : 0 < t.length := by
  obtain ⟨c, cs, rfl, -⟩ := h
  simp

theorem hexDigit_printable : ∀ d, d < 16 → 0x20 ≤ (hexDigit d).toNat := by
  decide

theorem unicodeEscape_printable {n : Nat} (h : n < 65536) : Printable (unicodeEscape n) := by
  intro c hc
  simp only [unicodeEscape, List.mem_cons, List.not_mem_nil, or_false] at hc
  rcases hc with rfl | rfl | rfl | rfl | rfl | rfl
  · decide
  · decide
  all_goals exact hexDigit_printable _ (by omega)

theorem escape_printable (c : Char) : Printable (escape c) := by
  unfold escape
  split
  · rename_i letter h
    obtain ⟨l₁, l₂, hsplit, -⟩ := List.lookup_eq_some_iff.mp h
    have hmem : (c, letter) ∈ shortEscapes := by simp [hsplit]
    have hall : ∀ pair ∈ shortEscapes, ∀ d ∈ ['\\', pair.2], 0x20 ≤ d.toNat := by
      simp [shortEscapes]
    exact hall _ hmem
  · split_ifs with hplain hbmp
    · simpa [Printable] using hplain.1
    · exact unicodeEscape_printable hbmp
    · have hlt := toNat_lt c
      exact (unicodeEscape_printable (by omega)).append (unicodeEscape_printable (by omega))

theorem strText_printable (s : String) : Printable (strText s) := by
  have hbody : Printable (s.toList.flatMap escape) := by
    intro c hc
    obtain ⟨d, -, hd⟩ := List.mem_flatMap.mp hc
    exact escape_printable d c hd
  exact Printable.cons (by decide) (hbody.append (by simp [Printable]))

theorem isDigit_printable {c : Char} (h : c.isDigit = true) : 0x20 ≤ c.toNat := by
  simp only [Char.isDigit, Bool.and_eq_true, decide_eq_true_eq, ge_iff_le, UInt32.le_iff_toNat_le]
    at h
  have h48 : 48 ≤ c.val.toNat := by simpa using h.1
  simp only [Char.toNat]
  omega

theorem digits_printable (n : Nat) : Printable (digits n) := fun _ hc =>
  isDigit_printable (isDigit_of_mem_digits hc)

/-! ### Scalars -/

theorem none_reads : Reads .none ['n', 'u', 'l', 'l'] where
  printable := by simp [Printable]
  starts := ⟨'n', _, rfl, by decide⟩
  parse
    | 0, _, h, _ => by simp at h
    | _ + 1, _, _, _ => by simp [parseValue]

theorem bool_reads (b : Bool) :
    ∃ t, text (.bool b) = .ok t ∧ Reads (.bool b) t := by
  cases b with
  | true =>
      refine ⟨_, by rw [text], by simp [Printable], ⟨'t', _, rfl, by decide⟩, ?_⟩
      intro fuel rest hfuel _
      cases fuel with
      | zero => simp at hfuel
      | succ fuel => simp [parseValue]
  | false =>
      refine ⟨_, by rw [text], by simp [Printable], ⟨'f', _, rfl, by decide⟩, ?_⟩
      intro fuel rest hfuel _
      cases fuel with
      | zero => simp at hfuel
      | succ fuel => simp [parseValue]

/-- A text that starts with a digit is read as a number. -/
theorem parseValue_digit {c : Char} (h : c.isDigit = true) (fuel : Nat) (cs : List Char) :
    parseValue (fuel + 1) (c :: cs) = parseDigits (c :: cs) := by
  have hne : ∀ d : Char, d.isDigit = false → c ≠ d := by
    rintro d hd rfl
    simp [hd] at h
  unfold parseValue
  split
  all_goals simp_all

theorem digits_starts (n : Nat) : ∃ c cs, digits n = c :: cs ∧ c.isDigit = true := by
  cases h : digits n with
  | nil => exact absurd h (digits_ne_nil n)
  | cons c cs => exact ⟨c, cs, rfl, isDigit_of_mem_digits (n := n) (by simp [h])⟩

theorem startsValue_of_isDigit {c : Char} (h : c.isDigit = true) (cs : List Char) :
    StartsValue (c :: cs) := by
  have hne : ∀ d : Char, d.isDigit = false → c ≠ d := by
    rintro d hd rfl
    simp [hd] at h
  exact ⟨c, cs, rfl, ⟨hne _ (by decide), hne _ (by decide), hne _ (by decide), hne _ (by decide)⟩,
    hne _ (by decide), hne _ (by decide)⟩

theorem parseValue_digits (n fuel : Nat) (rest : List Char) :
    parseValue (fuel + 1) (digits n ++ rest) = parseDigits (digits n ++ rest) := by
  obtain ⟨c, cs, hc, hdigit⟩ := digits_starts n
  rw [hc, List.cons_append, parseValue_digit hdigit]

theorem int_reads (i : Int) : Reads (.int i) (intText i) := by
  unfold intText
  split_ifs with hneg
  · refine ⟨Printable.cons (by decide) (digits_printable _), ⟨'-', _, rfl, by decide⟩, ?_⟩
    intro fuel rest hfuel hends
    cases fuel with
    | zero => simp at hfuel
    | succ fuel =>
        have habs : -(i.natAbs : Int) = i := by omega
        rw [List.cons_append, parseValue, parseNegative_digits _ hends, habs]
  · obtain ⟨c, cs, hc, hdigit⟩ := digits_starts i.natAbs
    refine ⟨digits_printable _, hc ▸ startsValue_of_isDigit hdigit cs, ?_⟩
    intro fuel rest hfuel hends
    cases fuel with
    | zero => simp [hc] at hfuel
    | succ fuel =>
        have habs : (i.natAbs : Int) = i := by omega
        rw [parseValue_digits, parseDigits_digits _ hends, habs]

theorem float_reads (bits : UInt64) : Reads (.float bits) (digits bits.toNat ++ ['.', '0']) := by
  obtain ⟨c, cs, hc, hdigit⟩ := digits_starts bits.toNat
  refine ⟨(digits_printable _).append (by simp [Printable]),
    by rw [hc, List.cons_append]; exact startsValue_of_isDigit hdigit _, ?_⟩
  intro fuel rest hfuel _
  cases fuel with
  | zero => simp at hfuel
  | succ fuel =>
      rw [List.append_assoc, parseValue_digits]
      exact parseDigits_float bits rest

theorem str_reads (s : String) : Reads (.str s) (strText s) := by
  refine ⟨strText_printable s, ⟨'"', _, rfl, by decide⟩, ?_⟩
  intro fuel rest hfuel _
  cases fuel with
  | zero => simp [strText] at hfuel
  | succ fuel =>
      simp only [strText, List.cons_append, List.append_assoc, List.nil_append, parseValue,
        parseString_strText, Option.bind_eq_bind, Option.bind_some, Option.pure_def]

/-! ### Lists and dictionaries -/

/-- The text behind the first item is read back as the items. -/
structure ReadsItems (items : List Value) (t : List Char) : Prop where
  printable : Printable t
  ends : ∀ rest, Ends (t ++ rest)
  parse : ∀ fuel rest, t.length ≤ fuel → parseItems fuel (t ++ rest) = some (items, rest)

theorem itemsText_reads (items : List Value)
    (h : ∀ item ∈ items, ∃ t, text item = .ok t ∧ Reads item t) :
    ∃ t, itemsText items = .ok t ∧ ReadsItems items t := by
  induction items with
  | nil =>
      refine ⟨[']'], rfl, by simp [Printable], fun rest => ends_cons (by decide) (by decide), ?_⟩
      intro fuel rest hfuel
      cases fuel with
      | zero => simp at hfuel
      | succ fuel => simp [parseItems, skipSpace]
  | cons item items ih =>
      obtain ⟨t, ht, hreads⟩ := h item (by simp)
      obtain ⟨ts, hts, hrest⟩ := ih fun other hother => h other (by simp [hother])
      refine ⟨',' :: ' ' :: (t ++ ts), by simp [itemsText, ht, hts, bind, Except.bind, pure,
        Except.pure], ?_, fun rest => ends_cons (by decide) (by decide), ?_⟩
      · exact Printable.cons (by decide)
          (Printable.cons (by decide) (hreads.printable.append hrest.printable))
      · intro fuel rest hfuel
        simp only [List.length_cons, List.length_append] at hfuel
        cases fuel with
        | zero => omega
        | succ fuel =>
            have hitem := hreads.parse fuel (ts ++ rest) (by omega) (hrest.ends rest)
            have hitems := hrest.parse fuel rest (by omega)
            have hskip : skipSpace (' ' :: (t ++ (ts ++ rest))) = t ++ (ts ++ rest) :=
              hreads.starts.skipSpace (ts ++ rest)
            simp only [List.cons_append, List.append_assoc, parseItems,
              skipSpace_cons (c := ',') (by decide), hskip, hitem, hitems, Option.bind_eq_bind,
              Option.bind_some, Option.pure_def]

theorem list_reads {items : List Value}
    (h : ∀ item ∈ items, ∃ t, text item = .ok t ∧ Reads item t) :
    ∃ t, text (.list items) = .ok t ∧ Reads (.list items) t := by
  cases items with
  | nil =>
      refine ⟨_, by rw [text], by simp [Printable], ⟨'[', _, rfl, by decide⟩, ?_⟩
      intro fuel rest hfuel _
      cases fuel with
      | zero => simp at hfuel
      | succ fuel => simp [parseValue, skipSpace]
  | cons item items =>
      obtain ⟨t, ht, hreads⟩ := h item (by simp)
      obtain ⟨ts, hts, hrest⟩ := itemsText_reads items fun other hother =>
        h other (by simp [hother])
      refine ⟨'[' :: (t ++ ts), by simp [text, ht, hts, bind, Except.bind, pure, Except.pure],
        Printable.cons (by decide) (hreads.printable.append hrest.printable),
        ⟨'[', _, rfl, by decide⟩, ?_⟩
      intro fuel rest hfuel _
      simp only [List.length_cons, List.length_append] at hfuel
      cases fuel with
      | zero => omega
      | succ fuel =>
          have hitem := hreads.parse fuel (ts ++ rest) (by omega) (hrest.ends rest)
          have hitems := hrest.parse fuel rest (by omega)
          have hskip := hreads.starts.skipSpace (ts ++ rest)
          obtain ⟨c, cs, rfl, -, hclose, -⟩ := hreads.starts
          simp only [List.cons_append, List.append_assoc] at hskip hitem ⊢
          rw [parseValue, hskip]
          split
          · simp_all
          · simp only [hitem, hitems, Option.bind_eq_bind, Option.bind_some, Option.pure_def]

theorem keyText_reads (key : String) (rest : List Char) (hrest : skipSpace rest = rest) :
    parseKey (strText key ++ [':', ' '] ++ rest) = some (key, rest) := by
  have hskip : skipSpace (' ' :: rest) = rest := by simpa [skipSpace] using hrest
  simp only [strText, List.cons_append, List.append_assoc, List.nil_append, parseKey,
    parseString_strText, Option.bind_eq_bind, Option.bind_some,
    skipSpace_cons (c := ':') (by decide), hskip]

/-- The text behind the first entry is read back as the entries. -/
structure ReadsEntries (entries : List (String × Value)) (t : List Char) : Prop where
  printable : Printable t
  ends : ∀ rest, Ends (t ++ rest)
  parse : ∀ fuel rest, t.length ≤ fuel → parseEntries fuel (t ++ rest) = some (entries, rest)

/-- The entries of a dictionary with the given string keys. -/
def strEntries (entries : List (String × Value)) : Dict :=
  entries.map fun entry => (.str entry.1, entry.2)

/-- One entry: its key, its colon and its value. -/
theorem parse_entry (key : String) {value : Value} {t rest : List Char} (hreads : Reads value t)
    (hends : Ends rest) (fuel : Nat) (hfuel : t.length ≤ fuel) :
    parseKey (strText key ++ ':' :: ' ' :: (t ++ rest)) = some (key, t ++ rest) ∧
      parseValue fuel (t ++ rest) = some (value, rest) := by
  refine ⟨?_, hreads.parse fuel rest hfuel hends⟩
  have hkey := keyText_reads key (t ++ rest) (hreads.starts.skipSpace rest)
  simpa using hkey

theorem entriesText_reads (entries : List (String × Value))
    (h : ∀ entry ∈ entries, ∃ t, text entry.2 = .ok t ∧ Reads entry.2 t) :
    ∃ t, entriesText (strEntries entries) = .ok t ∧ ReadsEntries entries t := by
  induction entries with
  | nil =>
      refine ⟨['}'], rfl, by simp [Printable], fun rest => ends_cons (by decide) (by decide), ?_⟩
      intro fuel rest hfuel
      cases fuel with
      | zero => simp at hfuel
      | succ fuel => simp [parseEntries, skipSpace]
  | cons entry entries ih =>
      obtain ⟨key, value⟩ := entry
      obtain ⟨t, ht, hreads⟩ := h (key, value) (by simp)
      obtain ⟨ts, hts, hrest⟩ := ih fun other hother => h other (by simp [hother])
      have htext : entriesText (strEntries ((key, value) :: entries)) =
          .ok (',' :: ' ' :: (strText key ++ [':', ' '] ++ t ++ ts)) := by
        simp only [strEntries, List.map_cons, entriesText, keyText, bind, Except.bind, pure,
          Except.pure]
        simp only [strEntries] at hts
        simp only [ht, hts]
      refine ⟨_, htext, ?_, fun rest => ends_cons (by decide) (by decide), ?_⟩
      · have hkey : Printable (strText key ++ [':', ' ']) :=
          (strText_printable key).append (by simp [Printable])
        exact Printable.cons (by decide) (Printable.cons (by decide)
          ((hkey.append hreads.printable).append hrest.printable))
      · intro fuel rest hfuel
        simp only [List.length_cons, List.length_append] at hfuel
        cases fuel with
        | zero => omega
        | succ fuel =>
            obtain ⟨hkey, hvalue⟩ :=
              parse_entry key hreads (hrest.ends rest) fuel (by omega)
            have hentries := hrest.parse fuel rest (by omega)
            have hskip : ∀ cs, skipSpace (' ' :: (strText key ++ cs)) = strText key ++ cs :=
              fun cs => (str_reads key).starts.skipSpace cs
            simp only [List.cons_append, List.append_assoc, List.nil_append, parseEntries,
              skipSpace_cons (c := ',') (by decide), hskip, hkey, hvalue, hentries,
              Option.bind_eq_bind, Option.bind_some, Option.pure_def]

/-- Assigning new keys one after the other appends them. -/
theorem foldl_set (entries : List (String × Value)) (d : List (String × Value))
    (h : ((d ++ entries).map Prod.fst).Nodup) :
    entries.foldl (fun (d : Dict) entry => Dict.set d entry.1 entry.2) (strEntries d) =
      strEntries (d ++ entries) := by
  induction entries generalizing d with
  | nil => simp
  | cons entry entries ih =>
      obtain ⟨key, value⟩ := entry
      have hfresh : key ∉ d.map Prod.fst := by
        simp only [List.map_append, List.map_cons, List.nodup_append] at h
        intro hmem
        exact h.2.2 key hmem key (by simp) rfl
      have hany : ((strEntries d).any fun entry => entry.1.eqStr key) = false := by
        rw [List.any_eq_false]
        intro entry hentry
        simp only [strEntries, List.mem_map] at hentry
        obtain ⟨other, hother, rfl⟩ := hentry
        have hne : other.1 ≠ key := by
          rintro rfl
          exact hfresh (List.mem_map_of_mem hother)
        simpa [Value.eqStr] using hne
      have hset : Dict.set (strEntries d) key value = strEntries (d ++ [(key, value)]) := by
        rw [Dict.set, hany]
        simp [strEntries]
      rw [List.foldl_cons, hset, ih (d ++ [(key, value)]) (by simpa using h), List.append_assoc,
        List.singleton_append]

theorem dict_reads {entries : List (String × Value)} (hkeys : (entries.map Prod.fst).Nodup)
    (h : ∀ entry ∈ entries, ∃ t, text entry.2 = .ok t ∧ Reads entry.2 t) :
    ∃ t, text (.dict (strEntries entries)) = .ok t ∧ Reads (.dict (strEntries entries)) t := by
  cases entries with
  | nil =>
      refine ⟨['{', '}'], rfl, by simp [Printable], ⟨'{', _, rfl, by decide⟩, ?_⟩
      intro fuel rest hfuel _
      cases fuel with
      | zero => simp at hfuel
      | succ fuel => simp [parseValue, skipSpace, strEntries]
  | cons entry entries =>
      obtain ⟨key, value⟩ := entry
      obtain ⟨t, ht, hreads⟩ := h (key, value) (by simp)
      obtain ⟨ts, hts, hrest⟩ := entriesText_reads entries fun other hother =>
        h other (by simp [hother])
      have htext : text (.dict (strEntries ((key, value) :: entries))) =
          .ok ('{' :: (strText key ++ [':', ' '] ++ t ++ ts)) := by
        simp only [strEntries, List.map_cons, text, keyText, bind, Except.bind, pure,
          Except.pure]
        simp only [strEntries] at hts
        simp only [ht, hts]
      have hkey : Printable (strText key ++ [':', ' ']) :=
        (strText_printable key).append (by simp [Printable])
      refine ⟨_, htext, Printable.cons (by decide)
        ((hkey.append hreads.printable).append hrest.printable), ⟨'{', _, rfl, by decide⟩, ?_⟩
      intro fuel rest hfuel _
      simp only [List.length_cons, List.length_append] at hfuel
      cases fuel with
      | zero => omega
      | succ fuel =>
          obtain ⟨hkey, hvalue⟩ :=
            parse_entry key hreads (hrest.ends rest) fuel (by omega)
          have hentries := hrest.parse fuel rest (by omega)
          have hskip : ∀ cs, skipSpace (strText key ++ cs) = strText key ++ cs :=
            fun cs => (str_reads key).starts.skipSpace cs
          -- no key stands twice, so the entries are stored in their order
          have hset := foldl_set entries [(key, value)] hkeys
          simp only [List.cons_append, List.append_assoc, List.nil_append]
          rw [parseValue, hskip]
          split
          · simp_all [strText]
          · simp only [hkey, hvalue, hentries, Option.bind_eq_bind, Option.bind_some,
              Option.pure_def]
            exact congrArg (fun d => some (Value.dict d, rest)) hset

/-- Every JSON value has a text that is read back as the value. -/
theorem text_reads {value : Value} (h : value.IsJson) :
    ∃ t, text value = .ok t ∧ Reads value t := by
  induction h with
  | none => exact ⟨_, by rw [text], none_reads⟩
  | bool b => exact bool_reads b
  | int i => exact ⟨_, by rw [text], int_reads i⟩
  | float bits _ => exact ⟨_, by rw [text], float_reads bits⟩
  | str s => exact ⟨_, by rw [text], str_reads s⟩
  | list items _ ih => exact list_reads ih
  | dict keys values hlength hkeys _ ih =>
      have hentries : (keys.map Value.str).zip values = strEntries (keys.zip values) := by
        simp [strEntries, List.zip_map_left]
      have hfst : (keys.zip values).map Prod.fst = keys :=
        List.map_fst_zip (by omega)
      rw [hentries]
      exact dict_reads (by rwa [hfst]) fun entry hentry => ih entry.2 (List.of_mem_zip hentry).2

/-- `loads` inverts `dumps`, whose text holds no control character. -/
theorem loads_dumps {value : Value} (h : value.IsJson) :
    ∃ s, dumps value = .ok s ∧ loads s = .ok value ∧ ∀ c ∈ s.toList, 0x20 ≤ c.toNat := by
  obtain ⟨t, ht, hreads⟩ := text_reads h
  refine ⟨String.ofList t, by simp [dumps, ht, Except.map], ?_, by
    simpa [Printable] using hreads.printable⟩
  have hskip : skipSpace t = t := by simpa using hreads.starts.skipSpace []
  have hparse : parseValue (t.length + 1) t = some (value, []) := by
    simpa using hreads.parse (t.length + 1) [] (by omega) ends_nil
  simp [loads, hskip, hparse, skipSpace]

/-- An empty text is no JSON document. -/
theorem loads_empty : loads "" = .error (.valueError "Expecting value") := by
  rfl

end JsonText

end GeventSignalR
