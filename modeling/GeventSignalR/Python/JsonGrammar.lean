import GeventSignalR.Python.Braces
import GeventSignalR.Python.JsonText

/-!
# What the reader of JSON text accepts

* `Piece`: a text whose braces are balanced and that has no control characters.
* `value_spec`, `items_spec`, `entries_spec`: what the reader takes from a text is such a
  piece, and it takes the same from any other text that starts with the piece.
* `loads_object`, `loads_legible`, `loads_space`: the grammar of `loads`.
-/

namespace GeventSignalR
namespace JsonText

open Python.Braces

/-- A text the scanner of braces passes, without control characters. -/
structure Piece (inString : Bool) (piece : List Char) : Prop where
  balanced : Balanced inString piece
  legible : ∀ c ∈ piece, c.toNat < 0x20 → isSpace c = true

theorem Piece.nil (inString : Bool) : Piece inString [] where
  balanced := Balanced.nil inString
  legible := by simp

theorem Piece.append {inString : Bool} {cs ds : List Char} (hc : Piece inString cs)
    (hd : Piece inString ds) : Piece inString (cs ++ ds) where
  balanced := hc.balanced.append hd.balanced
  legible := by
    intro c h
    rcases List.mem_append.mp h with h | h
    · exact hc.legible c h
    · exact hd.legible c h

theorem Piece.plain {c : Char} (hquote : c ≠ '"') (hopen : c ≠ '\x7b') (hclose : c ≠ '\x7d')
    (hlegible : c.toNat < 0x20 → isSpace c = true) : Piece false [c] where
  balanced := Balanced.plain hquote hopen hclose
  legible := by simpa using hlegible

theorem Piece.cons {c : Char} {cs : List Char} (hquote : c ≠ '"') (hopen : c ≠ '\x7b')
    (hclose : c ≠ '\x7d') (hlegible : c.toNat < 0x20 → isSpace c = true) (h : Piece false cs) :
    Piece false (c :: cs) :=
  (Piece.plain hquote hopen hclose hlegible).append h

theorem Piece.of_forall {cs : List Char}
    (h : ∀ c ∈ cs, c ≠ '"' ∧ c ≠ '\x7b' ∧ c ≠ '\x7d' ∧ (c.toNat < 0x20 → isSpace c = true)) :
    Piece false cs := by
  induction cs with
  | nil => exact Piece.nil false
  | cons c cs ih =>
      obtain ⟨hquote, hopen, hclose, hlegible⟩ := h c (by simp)
      exact Piece.cons hquote hopen hclose hlegible (ih fun d hd => h d (by simp [hd]))

theorem Piece.spaces {cs : List Char} (h : ∀ c ∈ cs, isSpace c = true) : Piece false cs := by
  apply Piece.of_forall
  intro c hc
  have hspace := h c hc
  refine ⟨?_, ?_, ?_, fun _ => hspace⟩ <;> rintro rfl <;> exact absurd hspace (by decide)

theorem Piece.quoted {body : List Char} (h : Piece true body) :
    Piece false ('"' :: (body ++ ['"'])) where
  balanced := h.balanced.quoted
  legible := by
    intro c hc
    simp only [List.mem_cons, List.mem_append, List.not_mem_nil, or_false] at hc
    rcases hc with rfl | hc | rfl
    · simp
    · exact h.legible c hc
    · simp

theorem Piece.braces {body : List Char} (h : Piece false body) :
    Piece false ('\x7b' :: (body ++ ['\x7d'])) where
  balanced := h.balanced.braces
  legible := by
    intro c hc
    simp only [List.mem_cons, List.mem_append, List.not_mem_nil, or_false] at hc
    rcases hc with rfl | hc | rfl
    · simp
    · exact h.legible c hc
    · simp

/-! ## Whitespace -/

theorem isSpace_iff {c : Char} :
    isSpace c = true ↔ c = ' ' ∨ c = '\n' ∨ c = '\r' ∨ c = '\t' := by
  simp [isSpace, or_assoc]

/-- `skipSpace` skips whitespace. -/
theorem skipSpace_spec (cs : List Char) :
    ∃ before, cs = before ++ skipSpace cs ∧ (∀ c ∈ before, isSpace c = true) ∧
      ∀ c ∈ (skipSpace cs).head?, isSpace c = false := by
  induction cs with
  | nil => exact ⟨[], by simp [skipSpace]⟩
  | cons c cs ih =>
      by_cases h : c = ' ' ∨ c = '\n' ∨ c = '\r' ∨ c = '\t'
      · obtain ⟨before, hsplit, hspaces, hhead⟩ := ih
        have hskip : skipSpace (c :: cs) = skipSpace cs := by rw [skipSpace, if_pos h]
        refine ⟨c :: before, ?_, ?_, ?_⟩
        · rw [hskip, List.cons_append, ← hsplit]
        · intro d hd
          rcases List.mem_cons.mp hd with rfl | hd
          · exact isSpace_iff.mpr h
          · exact hspaces d hd
        · rwa [hskip]
      · have hskip : skipSpace (c :: cs) = c :: cs := by rw [skipSpace, if_neg h]
        refine ⟨[], by rw [hskip, List.nil_append], by simp, ?_⟩
        rw [hskip]
        intro d hd
        simp only [List.head?_cons, Option.mem_some_iff] at hd
        subst hd
        simpa using mt isSpace_iff.mp h

theorem skipSpace_append {before : List Char} (h : ∀ c ∈ before, isSpace c = true)
    {rest : List Char} (hrest : ∀ c ∈ rest.head?, isSpace c = false) :
    skipSpace (before ++ rest) = rest := by
  induction before with
  | nil =>
      cases rest with
      | nil => rfl
      | cons c rest =>
          have hc := hrest c (by simp)
          have hnot : ¬(c = ' ' ∨ c = '\n' ∨ c = '\r' ∨ c = '\t') := by
            rw [← isSpace_iff, hc]
            simp
          rw [List.nil_append, skipSpace, if_neg hnot]
  | cons c before ih =>
      have hc := isSpace_iff.mp (h c (by simp))
      rw [List.cons_append, skipSpace, if_pos hc]
      exact ih fun d hd => h d (by simp [hd])

/-! ## Strings -/

theorem hexVal_plain {c : Char} {n : Nat} (h : hexVal c = some n) :
    c ≠ '"' ∧ c ≠ '\\' ∧ 0x20 ≤ c.toNat := by
  refine ⟨?_, ?_, ?_⟩
  · rintro rfl
    exact absurd h (by decide +revert)
  · rintro rfl
    exact absurd h (by decide +revert)
  · have hcontrol : ∀ m, m < 0x20 → hexVal (Char.ofNat m) = none := by decide
    by_contra hlt
    have hnone := hcontrol c.toNat (by omega)
    rw [Char.ofNat_toNat, h] at hnone
    cases hnone

/-- A character of a string that stands for itself. -/
theorem Piece.char {c : Char} (hslash : c ≠ '\\') (hquote : c ≠ '"') (hlow : 0x20 ≤ c.toNat) :
    Piece true [c] where
  balanced := Balanced.char hslash hquote
  legible := by
    intro d hd hlt
    rw [List.mem_singleton] at hd
    subst hd
    omega

/-- A character behind a backslash. -/
theorem Piece.escaped {c : Char} (hlow : 0x20 ≤ c.toNat) : Piece true ['\\', c] where
  balanced := Balanced.escaped c
  legible := by
    intro d hd hlt
    simp only [List.mem_cons, List.not_mem_nil, or_false] at hd
    rcases hd with rfl | rfl
    · exact absurd hlt (by decide)
    · omega

theorem parseHex_spec {cs rest : List Char} {n : Nat} (h : parseHex cs = some (n, rest)) :
    ∃ piece, cs = piece ++ rest ∧ Piece true piece ∧
      ∀ rest', parseHex (piece ++ rest') = some (n, rest') := by
  unfold parseHex at h
  split at h
  · rename_i a b c d rest₀
    simp only [Option.bind_eq_bind, Option.bind_eq_some_iff, Option.pure_def,
      Option.some.injEq, Prod.mk.injEq] at h
    obtain ⟨na, ha, nb, hb, nc, hc, nd, hd, hn, rfl⟩ := h
    have hplain : ∀ {x : Char} {m : Nat}, hexVal x = some m → Piece true [x] := by
      intro x m hx
      obtain ⟨hquote, hslash, hlow⟩ := hexVal_plain hx
      exact Piece.char hslash hquote hlow
    refine ⟨[a, b, c, d], rfl, ?_, ?_⟩
    · exact (hplain ha).append ((hplain hb).append ((hplain hc).append (hplain hd)))
    · intro rest'
      simp only [List.cons_append, List.nil_append, parseHex, ha, hb, hc, hd, Option.bind_eq_bind,
        Option.bind_some, Option.pure_def, hn]
  · cases h

theorem parseLow_spec {cs rest : List Char} {n : Nat} (h : parseLow cs = some (n, rest)) :
    ∃ piece, cs = piece ++ rest ∧ Piece true piece ∧
      ∀ rest', parseLow (piece ++ rest') = some (n, rest') := by
  unfold parseLow at h
  split at h
  · rename_i rest₀
    simp only [Option.bind_eq_bind, Option.bind_eq_some_iff] at h
    obtain ⟨⟨low, rest₁⟩, hhex, hlow⟩ := h
    simp only at hlow
    split_ifs at hlow with hrange
    cases hlow
    obtain ⟨piece, rfl, hpiece, hstable⟩ := parseHex_spec hhex
    refine ⟨'\\' :: 'u' :: piece, rfl, (Piece.escaped (by decide)).append hpiece, ?_⟩
    intro rest'
    simp only [List.cons_append, parseLow, hstable rest', Option.bind_eq_bind, Option.bind_some,
      if_pos hrange]
  · cases h

/-- The character a letter behind a backslash stands for. -/
def shortLetter (letter : Char) : Option Char :=
  if letter = '/' then some '/'
  else (shortEscapes.find? fun pair => pair.2 == letter).map (·.1)

theorem parseChar_letter {letter : Char} (h : letter ≠ 'u') (rest : List Char) :
    parseChar ('\\' :: letter :: rest) = (shortLetter letter).map fun c => (c, rest) := by
  unfold parseChar shortLetter
  split
  · simp_all
  · rename_i letter' rest' hne heq
    cases heq
    split_ifs
    · rfl
    · rw [Option.map_map]
      rfl
  · rename_i hne heq
    cases heq
    exact absurd rfl (hne letter rest rfl)
  · rename_i heq
    cases heq

/-- Such a letter is no control character. -/
theorem shortLetter_legible {letter c : Char} (h : shortLetter letter = some c) :
    0x20 ≤ letter.toNat := by
  unfold shortLetter at h
  split_ifs at h with hsolidus
  · rw [hsolidus]
    decide
  · rw [Option.map_eq_some_iff] at h
    obtain ⟨pair, hfind, -⟩ := h
    have hmem := List.mem_of_find?_eq_some hfind
    have hletter : pair.2 = letter := by simpa using List.find?_some hfind
    have hlow : ∀ pair ∈ shortEscapes, 0x20 ≤ pair.2.toNat := by decide
    exact hletter ▸ hlow pair hmem

/-- One character of a string is taken from any text that starts with its spelling. -/
theorem parseChar_spec {cs rest : List Char} {c : Char} (h : parseChar cs = some (c, rest))
    (hquote : cs.head? ≠ some '"') (hrest : rest ≠ []) :
    ∃ piece, cs = piece ++ rest ∧ piece ≠ [] ∧ piece.head? ≠ some '"' ∧ Piece true piece ∧
      ∀ rest', parseChar (piece ++ rest') = some (c, rest') := by
  have hparse := h
  unfold parseChar at h
  split at h
  · rename_i rest₀
    -- a `\u` escape; a high surrogate takes the low one behind it
    simp only [Option.bind_eq_bind, Option.bind_eq_some_iff] at h
    obtain ⟨⟨n, rest₁⟩, hhex, h⟩ := h
    obtain ⟨piece, rfl, hpiece, hstable⟩ := parseHex_spec hhex
    simp only at h
    split_ifs at h with hbmp hhigh
    · cases h
      refine ⟨'\\' :: 'u' :: piece, rfl, by simp, by simp,
        (Piece.escaped (by decide)).append hpiece, ?_⟩
      intro rest'
      simp only [List.cons_append, parseChar, hstable rest', Option.bind_eq_bind, Option.bind_some,
        if_pos hbmp]
    · simp only [Option.bind_eq_some_iff] at h
      obtain ⟨⟨low, rest₂⟩, hlow, h⟩ := h
      simp only [Option.some.injEq, Prod.mk.injEq] at h
      obtain ⟨hc, rfl⟩ := h
      obtain ⟨second, rfl, hsecond, hstable'⟩ := parseLow_spec hlow
      refine ⟨'\\' :: 'u' :: (piece ++ second), by simp, by simp, by simp,
        (Piece.escaped (by decide)).append (hpiece.append hsecond), ?_⟩
      intro rest'
      simp only [List.cons_append, List.append_assoc, parseChar, hstable, Option.bind_eq_bind,
        Option.bind_some, if_neg hbmp, if_pos hhigh, hstable', hc]
  · rename_i letter rest₀ hne
    -- an escape of one letter
    have hu : letter ≠ 'u' := fun he => hne he
    rw [parseChar_letter hu, Option.map_eq_some_iff] at hparse
    obtain ⟨d, hletter, heq⟩ := hparse
    cases heq
    refine ⟨['\\', letter], rfl, by simp, by simp, Piece.escaped (shortLetter_legible hletter), ?_⟩
    intro rest'
    rw [List.cons_append, List.cons_append, List.nil_append, parseChar_letter hu, hletter]
    rfl
  · rename_i d rest₀ hne hne'
    -- a character that stands for itself
    split_ifs at h with hlow
    cases h
    have hslash : c ≠ '\\' := by
      rintro rfl
      cases rest with
      | nil => exact hrest rfl
      | cons letter rest => exact hne' letter rest rfl rfl
    have hnot : c ≠ '"' := by
      rintro rfl
      exact hquote rfl
    refine ⟨[c], rfl, by simp, by simpa using hnot, Piece.char hslash hnot (by omega), ?_⟩
    intro rest'
    exact parseChar_plain hslash (by omega) rest'
  · cases h

/-- The characters of a string are taken with the quote behind them. -/
theorem parseChars_spec (fuel : Nat) : ∀ {cs chars rest : List Char},
    parseChars fuel cs = some (chars, rest) →
      ∃ body, cs = body ++ '"' :: rest ∧ Piece true body ∧
        ∀ fuel' rest', body.length < fuel' →
          parseChars fuel' (body ++ '"' :: rest') = some (chars, rest') := by
  induction fuel with
  | zero =>
      intro cs chars rest h
      simp [parseChars] at h
  | succ fuel ih =>
      intro cs chars rest h
      by_cases hquote : cs.head? = some '"'
      · obtain ⟨tail, rfl⟩ : ∃ tail, cs = '"' :: tail := by
          cases cs with
          | nil => cases hquote
          | cons c tail =>
              rw [List.head?_cons, Option.some.injEq] at hquote
              exact ⟨tail, by rw [hquote]⟩
        simp only [parseChars, Option.some.injEq, Prod.mk.injEq] at h
        obtain ⟨rfl, rfl⟩ := h
        refine ⟨[], rfl, Piece.nil true, ?_⟩
        intro fuel' rest' hfuel
        cases fuel' with
        | zero => simp at hfuel
        | succ fuel' => rfl
      · rw [parseChars] at h
        · simp only [Option.bind_eq_bind, Option.bind_eq_some_iff, Option.pure_def,
            Option.some.injEq, Prod.mk.injEq] at h
          obtain ⟨⟨c, cs₁⟩, hchar, ⟨chars₁, cs₂⟩, hchars, rfl, rfl⟩ := h
          -- no character starts with the quote, so the piece is read again before the quote
          obtain ⟨body, hbody, hpiece, hstable⟩ := ih hchars
          simp only at hbody
          have hne : cs₁ ≠ [] := by simp [hbody]
          obtain ⟨piece, rfl, hnil, hhead, hfirst, hstable'⟩ := parseChar_spec hchar hquote hne
          refine ⟨piece ++ body, by rw [hbody, List.append_assoc], hfirst.append hpiece, ?_⟩
          intro fuel' rest' hfuel
          have hpos : 0 < piece.length := List.length_pos_of_ne_nil hnil
          rw [List.length_append] at hfuel
          cases fuel' with
          | zero => omega
          | succ fuel' =>
              rw [List.append_assoc, parseChars]
              · simp only [hstable', hstable fuel' rest' (by omega), Option.bind_eq_bind,
                  Option.bind_some, Option.pure_def]
              · intro tail htail
                apply hhead
                cases piece with
                | nil => exact absurd rfl hnil
                | cons d piece =>
                    rw [List.cons_append] at htail
                    rw [List.head?_cons, (List.cons.inj htail).1]
        · intro tail htail
          exact hquote (by rw [htail]; rfl)

/-- A string is taken with the quote behind it. -/
theorem parseString_spec {cs rest : List Char} {s : String} (h : parseString cs = some (s, rest)) :
    ∃ body, cs = body ++ '"' :: rest ∧ Piece true body ∧
      ∀ rest', parseString (body ++ '"' :: rest') = some (s, rest') := by
  unfold parseString at h
  simp only [Option.bind_eq_bind, Option.bind_eq_some_iff, Option.pure_def, Option.some.injEq,
    Prod.mk.injEq] at h
  obtain ⟨⟨chars, cs₁⟩, hchars, rfl, rfl⟩ := h
  obtain ⟨body, hbody, hpiece, hstable⟩ := parseChars_spec _ hchars
  refine ⟨body, hbody, hpiece, ?_⟩
  intro rest'
  have hfuel : body.length < (body ++ '"' :: rest').length + 1 := by
    rw [List.length_append]
    omega
  simp only [parseString, hstable _ rest' hfuel, Option.bind_eq_bind, Option.bind_some,
    Option.pure_def]

/-! ## Numbers -/

theorem isDigit_plain {c : Char} (h : c.isDigit = true) :
    isSpace c = false ∧ c ≠ ']' ∧ c ≠ '"' ∧ c ≠ '\x7b' ∧ c ≠ '\x7d' := by
  have hne : ∀ d : Char, d.isDigit = false → c ≠ d := by
    rintro d hd rfl
    simp [hd] at h
  refine ⟨?_, hne _ rfl, hne _ rfl, hne _ rfl, hne _ rfl⟩
  by_contra hspace
  rcases isSpace_iff.mp (by simpa using hspace) with rfl | rfl | rfl | rfl <;> simp at h

theorem Piece.digits {ds : List Char} (h : ∀ c ∈ ds, c.isDigit = true) : Piece false ds := by
  apply Piece.of_forall
  intro c hc
  obtain ⟨-, -, hquote, hopen, hclose⟩ := isDigit_plain (h c hc)
  have hlow := isDigit_printable (h c hc)
  exact ⟨hquote, hopen, hclose, fun hlt => by omega⟩

/-- A run of digits is as long as it can be. -/
theorem span_run {ds rest : List Char} (h : ∀ c ∈ ds, c.isDigit = true)
    (hrest : ∀ c ∈ rest.head?, c.isDigit = false) :
    (ds ++ rest).takeWhile Char.isDigit = ds ∧ (ds ++ rest).dropWhile Char.isDigit = rest := by
  rw [List.takeWhile_append_of_pos h, List.dropWhile_append_of_pos h]
  cases rest with
  | nil => simp
  | cons c rest => simp [hrest c (by simp)]

theorem parseDigits_fraction {ds : List Char} (h : ∀ c ∈ ds, c.isDigit = true) (hds : ds ≠ [])
    (rest : List Char) :
    parseDigits (ds ++ '.' :: '0' :: rest) =
      some (.float (UInt64.ofNat (natOf ds)), rest) := by
  have hdot : ∀ c ∈ ('.' :: '0' :: rest).head?, c.isDigit = false := by simp
  obtain ⟨htake, hdrop⟩ := span_run h hdot
  cases ds with
  | nil => exact absurd rfl hds
  | cons c ds => simp only [parseDigits, htake, hdrop]

theorem parseDigits_int {ds rest : List Char} (h : ∀ c ∈ ds, c.isDigit = true) (hds : ds ≠ [])
    (hdigit : ∀ c ∈ rest.head?, c.isDigit = false)
    (hfraction : ∀ rest', rest ≠ '.' :: '0' :: rest') :
    parseDigits (ds ++ rest) = some (.int (natOf ds), rest) := by
  obtain ⟨htake, hdrop⟩ := span_run h hdigit
  unfold parseDigits
  rw [htake, hdrop]
  split
  · exact absurd rfl hds
  · exact absurd rfl (hfraction _)
  · rfl

theorem parseDigits_spec {cs rest : List Char} {value : Value}
    (h : parseDigits cs = some (value, rest)) :
    ∃ piece, cs = piece ++ rest ∧ (∃ c t, piece = c :: t ∧ c.isDigit = true) ∧
      Piece false piece ∧ (∀ c ∈ piece, isSpace c = false) ∧ (∀ d, value ≠ .dict d) ∧
        ∀ rest', Ends rest' → parseDigits (piece ++ rest') = some (value, rest') := by
  -- the longest run of digits, which `.0` may follow
  obtain ⟨ds, tail, rfl, hdigits, htail⟩ : ∃ ds tail, cs = ds ++ tail ∧
      (∀ c ∈ ds, c.isDigit = true) ∧ ∀ c ∈ tail.head?, c.isDigit = false := by
    refine ⟨cs.takeWhile Char.isDigit, cs.dropWhile Char.isDigit,
      List.takeWhile_append_dropWhile.symm, fun c hc => List.mem_takeWhile_imp hc, ?_⟩
    intro c hc
    have hne := List.head?_dropWhile_not Char.isDigit cs
    rw [Option.mem_def.mp hc] at hne
    simpa using hne
  have hne : ds ≠ [] := by
    rintro rfl
    have htake : tail.takeWhile Char.isDigit = [] := by
      cases tail with
      | nil => rfl
      | cons c tail => simp [htail c (by simp)]
    simp [parseDigits, htake] at h
  have hstart : ∃ c t, ds = c :: t ∧ c.isDigit = true := by
    cases ds with
    | nil => exact absurd rfl hne
    | cons c t => exact ⟨c, t, rfl, hdigits c (by simp)⟩
  by_cases hfraction : ∃ tail', tail = '.' :: '0' :: tail'
  · obtain ⟨tail', rfl⟩ := hfraction
    rw [parseDigits_fraction hdigits hne] at h
    cases h
    obtain ⟨c, t, rfl, hc⟩ := hstart
    refine ⟨c :: t ++ ['.', '0'], by simp, ⟨c, t ++ ['.', '0'], rfl, hc⟩, ?_, ?_, by simp, ?_⟩
    · refine (Piece.digits hdigits).append (Piece.of_forall ?_)
      simp
    · intro d hd
      rcases List.mem_append.mp hd with hd | hd
      · exact (isDigit_plain (hdigits d hd)).1
      · have hall : ∀ e ∈ ['.', '0'], isSpace e = false := by simp [isSpace]
        exact hall d hd
    · intro rest' _
      rw [List.append_assoc]
      exact parseDigits_fraction hdigits hne rest'
  -- an integer ends where no digit and no point follows
  · have hint : ∀ tail', tail ≠ '.' :: '0' :: tail' := fun tail' h => hfraction ⟨tail', h⟩
    rw [parseDigits_int hdigits hne htail hint] at h
    cases h
    refine ⟨ds, rfl, hstart, Piece.digits hdigits, fun d hd => (isDigit_plain (hdigits d hd)).1,
      by simp, ?_⟩
    intro rest' hends
    apply parseDigits_int hdigits hne fun c hc => (hends c hc).1
    rintro rest'' rfl
    exact (hends '.' (by simp)).2 rfl

theorem parseNegative_spec {cs rest : List Char} {value : Value}
    (h : parseNegative cs = some (value, rest)) :
    ∃ piece, cs = piece ++ rest ∧ Piece false piece ∧ (∀ c ∈ piece, isSpace c = false) ∧
      (∀ d, value ≠ .dict d) ∧
        ∀ rest', Ends rest' → parseNegative (piece ++ rest') = some (value, rest') := by
  have hdigits : ∀ c ∈ cs.takeWhile Char.isDigit, c.isDigit = true :=
    fun c hc => List.mem_takeWhile_imp hc
  have hsplit : cs = cs.takeWhile Char.isDigit ++ cs.dropWhile Char.isDigit :=
    List.takeWhile_append_dropWhile.symm
  unfold parseNegative at h
  generalize cs.takeWhile Char.isDigit = ds at h hdigits hsplit
  generalize cs.dropWhile Char.isDigit = tail at h hsplit
  subst hsplit
  cases ds with
  | nil => cases h
  | cons c ds =>
      simp only [Option.some.injEq, Prod.mk.injEq] at h
      obtain ⟨rfl, rfl⟩ := h
      refine ⟨c :: ds, rfl, Piece.digits hdigits, fun d hd => (isDigit_plain (hdigits d hd)).1,
        by simp, ?_⟩
      intro rest' hends
      obtain ⟨htake, hdrop⟩ := span_run hdigits fun c hc => (hends c hc).1
      simp only [parseNegative, htake, hdrop]

/-! ## Values -/

/-- A key with its colon is taken, whatever value follows. -/
structure TakenKey (key : String) (piece : List Char) : Prop where
  isPiece : Piece false piece
  starts : ∃ t, piece = '"' :: t
  parse : ∀ rest, (∀ c ∈ rest.head?, isSpace c = false) →
    parseKey (piece ++ rest) = some (key, rest)

theorem TakenKey.head {key : String} {piece : List Char} (h : TakenKey key piece)
    (rest : List Char) : ∀ c ∈ (piece ++ rest).head?, isSpace c = false := by
  obtain ⟨t, rfl⟩ := h.starts
  intro d hd
  simp only [List.cons_append, List.head?_cons, Option.mem_some_iff] at hd
  exact hd ▸ rfl

theorem parseKey_spec {cs rest : List Char} {key : String} (h : parseKey cs = some (key, rest)) :
    ∃ piece, cs = piece ++ rest ∧ TakenKey key piece := by
  unfold parseKey at h
  split at h
  · rename_i cs₀
    simp only [Option.bind_eq_bind, Option.bind_eq_some_iff] at h
    obtain ⟨⟨s, cs₁⟩, hstring, h⟩ := h
    obtain ⟨body, rfl, hbody, hstable⟩ := parseString_spec hstring
    simp only at h
    obtain ⟨before, hbefore, hspaces, -⟩ := skipSpace_spec cs₁
    split at h
    · rename_i cs₂ hcolon
      cases h
      obtain ⟨behind, hbehind, hspaces', -⟩ := skipSpace_spec cs₂
      rw [hcolon] at hbefore
      refine ⟨'"' :: (body ++ ['"']) ++ (before ++ (':' :: behind)), ?_, ?_, ⟨_, rfl⟩, ?_⟩
      · rw [hbefore]
        conv_lhs => rw [hbehind]
        simp
      · exact hbody.quoted.append ((Piece.spaces hspaces).append
          (Piece.cons (by decide) (by decide) (by decide) (by decide) (Piece.spaces hspaces')))
      · intro rest' hrest'
        have hskip : skipSpace (before ++ ':' :: (behind ++ rest')) = ':' :: (behind ++ rest') :=
          skipSpace_append hspaces (by simp [isSpace])
        have hskip' : skipSpace (behind ++ rest') = rest' := skipSpace_append hspaces' hrest'
        simp only [List.cons_append, List.append_assoc, List.nil_append, parseKey, hstable,
          Option.bind_eq_bind, Option.bind_some, hskip, hskip']
    · cases h
  · cases h

/-- A piece that is taken for a value, whatever follows it. -/
structure Taken (value : Value) (piece : List Char) : Prop where
  isPiece : Piece false piece
  starts : ∃ c t, piece = c :: t ∧ isSpace c = false ∧ c ≠ ']'
  last : ∀ c ∈ piece.getLast?, isSpace c = false
  braces : ∀ d, value = .dict d → ∃ body, piece = '\x7b' :: (body ++ ['\x7d']) ∧ Balanced false body
  parse : ∀ fuel rest, piece.length ≤ fuel → Ends rest →
    parseValue fuel (piece ++ rest) = some (value, rest)

/-- What is taken for the items behind the first one, without the closing bracket. -/
structure TakenItems (items : List Value) (body : List Char) : Prop where
  isPiece : Piece false body
  ends : ∀ rest, Ends (body ++ ']' :: rest)
  parse : ∀ fuel rest, body.length < fuel →
    parseItems fuel (body ++ ']' :: rest) = some (items, rest)

/-- What is taken for the entries behind the first one, without the closing brace. -/
structure TakenEntries (entries : List (String × Value)) (body : List Char) : Prop where
  isPiece : Piece false body
  ends : ∀ rest, Ends (body ++ '\x7d' :: rest)
  parse : ∀ fuel rest, body.length < fuel →
    parseEntries fuel (body ++ '\x7d' :: rest) = some (entries, rest)

/-- With some fuel, whatever is parsed is taken. -/
structure Takes (fuel : Nat) : Prop where
  value : ∀ {cs rest value}, parseValue fuel cs = some (value, rest) →
    ∃ piece, cs = piece ++ rest ∧ Taken value piece
  items : ∀ {cs rest items}, parseItems fuel cs = some (items, rest) →
    ∃ body, cs = body ++ ']' :: rest ∧ TakenItems items body
  entries : ∀ {cs rest entries}, parseEntries fuel cs = some (entries, rest) →
    ∃ body, cs = body ++ '\x7d' :: rest ∧ TakenEntries entries body

theorem Taken.length_pos {value : Value} {piece : List Char} (h : Taken value piece) :
    0 < piece.length := by
  obtain ⟨c, t, rfl, -⟩ := h.starts
  simp

theorem Taken.head {value : Value} {piece : List Char} (h : Taken value piece)
    (rest : List Char) : ∀ c ∈ (piece ++ rest).head?, isSpace c = false := by
  obtain ⟨c, t, rfl, hc, -⟩ := h.starts
  intro d hd
  simp only [List.cons_append, List.head?_cons, Option.mem_some_iff] at hd
  exact hd ▸ hc

/-- Whitespace and then a character that is no digit and no dot do not continue a
number. -/
theorem ends_spaces {before : List Char} (h : ∀ c ∈ before, isSpace c = true) {c : Char}
    (hdigit : c.isDigit = false) (hdot : c ≠ '.') (rest : List Char) :
    Ends (before ++ c :: rest) := by
  cases before with
  | nil => exact ends_cons hdigit hdot
  | cons d before =>
      have hd := isSpace_iff.mp (h d (by simp))
      apply ends_cons
      · rcases hd with rfl | rfl | rfl | rfl <;> rfl
      · rcases hd with rfl | rfl | rfl | rfl <;> decide

theorem last_append {c : Char} (h : isSpace c = false) (cs : List Char) {d : Char} :
    ∀ e ∈ (d :: (cs ++ [c])).getLast?, isSpace e = false := by
  intro e he
  rw [← List.cons_append, List.getLast?_append_of_ne_nil _ (by simp)] at he
  simp only [List.getLast?_singleton, Option.mem_some_iff] at he
  exact he ▸ h

/-- A word: a text that is taken whatever follows it. -/
theorem taken_keyword {value : Value} {word : List Char}
    (hword : Piece false word) (hstarts : ∃ c t, word = c :: t ∧ isSpace c = false ∧ c ≠ ']')
    (hlast : ∀ c ∈ word.getLast?, isSpace c = false)
    (hbraces : ∀ d, value = .dict d →
      ∃ body, word = '\x7b' :: (body ++ ['\x7d']) ∧ Balanced false body)
    (hparse : ∀ fuel rest, parseValue (fuel + 1) (word ++ rest) = some (value, rest)) :
    Taken value word := by
  refine ⟨hword, hstarts, hlast, hbraces, ?_⟩
  intro fuel rest hfuel _
  cases fuel with
  | zero =>
      obtain ⟨c, t, rfl, -⟩ := hstarts
      simp at hfuel
  | succ fuel => exact hparse fuel rest

theorem taken_string {s : String} {body : List Char} (h : Piece true body)
    (hparse : ∀ rest, parseString (body ++ '"' :: rest) = some (s, rest)) :
    Taken (.str s) ('"' :: (body ++ ['"'])) := by
  apply taken_keyword h.quoted ⟨'"', _, rfl, rfl, by decide⟩ (last_append (by decide) _)
    (by simp)
  intro fuel rest
  simp only [List.cons_append, List.append_assoc, List.nil_append, parseValue, hparse,
    Option.bind_eq_bind, Option.bind_some, Option.pure_def]

theorem taken_negative {value : Value} {piece : List Char} (h : Piece false piece)
    (hchars : ∀ c ∈ piece, isSpace c = false) (hvalue : ∀ d, value ≠ .dict d)
    (hparse : ∀ rest, Ends rest → parseNegative (piece ++ rest) = some (value, rest)) :
    Taken value ('-' :: piece) where
  isPiece := Piece.cons (by decide) (by decide) (by decide) (by decide) h
  starts := ⟨'-', piece, rfl, rfl, by decide⟩
  last := by
    intro c hc
    rcases List.mem_cons.mp (List.mem_of_getLast? hc) with rfl | hc
    · rfl
    · exact hchars c hc
  braces := fun d hd => absurd hd (hvalue d)
  parse := by
    intro fuel rest hfuel hends
    cases fuel with
    | zero => simp at hfuel
    | succ fuel =>
        rw [List.cons_append, parseValue]
        exact hparse rest hends

theorem taken_digits {value : Value} {piece : List Char} (h : Piece false piece)
    (hstarts : ∃ c t, piece = c :: t ∧ c.isDigit = true)
    (hchars : ∀ c ∈ piece, isSpace c = false) (hvalue : ∀ d, value ≠ .dict d)
    (hparse : ∀ rest, Ends rest → parseDigits (piece ++ rest) = some (value, rest)) :
    Taken value piece := by
  obtain ⟨c, t, rfl, hc⟩ := hstarts
  obtain ⟨hspace, hbracket, -⟩ := isDigit_plain hc
  refine ⟨h, ⟨c, t, rfl, hspace, hbracket⟩, fun d hd => hchars d (List.mem_of_getLast? hd),
    fun d hd => absurd hd (hvalue d), ?_⟩
  intro fuel rest hfuel hends
  cases fuel with
  | zero => simp at hfuel
  | succ fuel =>
      rw [List.cons_append, parseValue_digit hc]
      exact hparse rest hends

theorem taken_emptyList {before : List Char} (h : ∀ c ∈ before, isSpace c = true) :
    Taken (.list []) ('[' :: (before ++ [']'])) := by
  apply taken_keyword
  · apply Piece.cons (by decide) (by decide) (by decide) (by decide)
    exact (Piece.spaces h).append (Piece.plain (by decide) (by decide) (by decide) (by decide))
  · exact ⟨'[', _, rfl, rfl, by decide⟩
  · exact last_append (by decide) before
  · simp
  · intro fuel rest
    have hskip : skipSpace (before ++ ']' :: rest) = ']' :: rest :=
      skipSpace_append h (by simp [isSpace])
    simp only [List.cons_append, List.append_assoc, List.nil_append, parseValue, hskip]

theorem taken_list {before : List Char} (h : ∀ c ∈ before, isSpace c = true) {item : Value}
    {piece : List Char} (hitem : Taken item piece) {items : List Value} {body : List Char}
    (hitems : TakenItems items body) :
    Taken (.list (item :: items)) ('[' :: (before ++ (piece ++ (body ++ [']'])))) where
  isPiece := by
    apply Piece.cons (by decide) (by decide) (by decide) (by decide)
    exact (Piece.spaces h).append (hitem.isPiece.append (hitems.isPiece.append
      (Piece.plain (by decide) (by decide) (by decide) (by decide))))
  starts := ⟨'[', _, rfl, rfl, by decide⟩
  last := by
    rw [← List.append_assoc, ← List.append_assoc]
    exact last_append (by decide) _
  braces := by simp
  parse := by
    intro fuel rest hfuel _
    cases fuel with
    | zero => simp at hfuel
    | succ fuel =>
        simp only [List.length_cons, List.length_append, List.length_nil] at hfuel
        have hskip : skipSpace (before ++ (piece ++ (body ++ ']' :: rest))) =
            piece ++ (body ++ ']' :: rest) := skipSpace_append h (hitem.head _)
        have hfirst := hitem.parse fuel (body ++ ']' :: rest) (by omega) (hitems.ends rest)
        have hrest := hitems.parse fuel rest (by omega)
        obtain ⟨c, t, hpiece, -, hbracket⟩ := hitem.starts
        simp only [List.cons_append, List.append_assoc, List.nil_append, parseValue, hskip]
        split
        · rename_i cs hcs
          rw [hpiece, List.cons_append] at hcs
          exact absurd (List.cons.inj hcs).1 hbracket
        · simp only [hfirst, hrest, Option.bind_eq_bind, Option.bind_some, Option.pure_def]

theorem taken_emptyDict {before : List Char} (h : ∀ c ∈ before, isSpace c = true) :
    Taken (.dict []) ('\x7b' :: (before ++ ['\x7d'])) := by
  apply taken_keyword (Piece.braces (Piece.spaces h)) ⟨'\x7b', _, rfl, rfl, by decide⟩
    (last_append (by decide) before) (fun _ _ => ⟨before, rfl, (Piece.spaces h).balanced⟩)
  intro fuel rest
  have hskip : skipSpace (before ++ '\x7d' :: rest) = '\x7d' :: rest :=
    skipSpace_append h (by simp [isSpace])
  simp only [List.cons_append, List.append_assoc, List.nil_append, parseValue, hskip]

theorem taken_dict {before : List Char} (h : ∀ c ∈ before, isSpace c = true) {key : String}
    {front : List Char} (hkey : TakenKey key front) {value : Value} {piece : List Char}
    (hvalue : Taken value piece) {entries : List (String × Value)} {body : List Char}
    (hentries : TakenEntries entries body) :
    Taken (.dict (entries.foldl (fun d entry => Dict.set d entry.1 entry.2) [(.str key, value)]))
      ('\x7b' :: (before ++ (front ++ (piece ++ (body ++ ['\x7d']))))) where
  isPiece := by
    have hall := ((Piece.spaces h).append (hkey.isPiece.append
      (hvalue.isPiece.append hentries.isPiece))).braces
    simpa using hall
  starts := ⟨'\x7b', _, rfl, rfl, by decide⟩
  last := by
    rw [← List.append_assoc, ← List.append_assoc, ← List.append_assoc]
    exact last_append (by decide) _
  braces := by
    intro d _
    refine ⟨before ++ (front ++ (piece ++ body)), by simp, ?_⟩
    exact ((Piece.spaces h).append (hkey.isPiece.append
      (hvalue.isPiece.append hentries.isPiece))).balanced
  parse := by
    intro fuel rest hfuel _
    cases fuel with
    | zero => simp at hfuel
    | succ fuel =>
        simp only [List.length_cons, List.length_append, List.length_nil] at hfuel
        have hskip : skipSpace (before ++ (front ++ (piece ++ (body ++ '\x7d' :: rest)))) =
            front ++ (piece ++ (body ++ '\x7d' :: rest)) := skipSpace_append h (hkey.head _)
        have hfront := hkey.parse _ (hvalue.head (body ++ '\x7d' :: rest))
        have hfirst := hvalue.parse fuel (body ++ '\x7d' :: rest) (by omega) (hentries.ends rest)
        have hrest := hentries.parse fuel rest (by omega)
        obtain ⟨t, ht⟩ := hkey.starts
        simp only [List.cons_append, List.append_assoc, List.nil_append, parseValue, hskip]
        split
        · rename_i cs hcs
          rw [ht, List.cons_append] at hcs
          exact absurd (List.cons.inj hcs).1 (by decide)
        · simp only [hfront, hfirst, hrest, Option.bind_eq_bind, Option.bind_some, Option.pure_def]

theorem takenItems_nil {before : List Char} (h : ∀ c ∈ before, isSpace c = true) :
    TakenItems [] before where
  isPiece := Piece.spaces h
  ends := ends_spaces h (by decide) (by decide)
  parse := by
    intro fuel rest hfuel
    cases fuel with
    | zero => simp at hfuel
    | succ fuel =>
        have hskip : skipSpace (before ++ ']' :: rest) = ']' :: rest :=
          skipSpace_append h (by simp [isSpace])
        simp only [parseItems, hskip]

theorem takenItems_cons {before behind : List Char} (h : ∀ c ∈ before, isSpace c = true)
    (h' : ∀ c ∈ behind, isSpace c = true) {item : Value} {piece : List Char}
    (hitem : Taken item piece) {items : List Value} {body : List Char}
    (hitems : TakenItems items body) :
    TakenItems (item :: items) (before ++ (',' :: (behind ++ (piece ++ body)))) where
  isPiece := (Piece.spaces h).append (Piece.cons (by decide) (by decide) (by decide) (by decide)
    ((Piece.spaces h').append (hitem.isPiece.append hitems.isPiece)))
  ends := by
    intro rest
    rw [List.append_assoc, List.cons_append]
    exact ends_spaces h (by decide) (by decide) _
  parse := by
    intro fuel rest hfuel
    cases fuel with
    | zero => simp at hfuel
    | succ fuel =>
        simp only [List.length_cons, List.length_append] at hfuel
        have hskip : skipSpace (before ++ ',' :: (behind ++ (piece ++ (body ++ ']' :: rest)))) =
            ',' :: (behind ++ (piece ++ (body ++ ']' :: rest))) :=
          skipSpace_append h (by simp [isSpace])
        have hskip' : skipSpace (behind ++ (piece ++ (body ++ ']' :: rest))) =
            piece ++ (body ++ ']' :: rest) := skipSpace_append h' (hitem.head _)
        have hfirst := hitem.parse fuel (body ++ ']' :: rest) (by omega) (hitems.ends rest)
        have hrest := hitems.parse fuel rest (by omega)
        simp only [List.append_assoc, List.cons_append, parseItems, hskip, hskip', hfirst, hrest,
          Option.bind_eq_bind, Option.bind_some, Option.pure_def]

theorem takenEntries_nil {before : List Char} (h : ∀ c ∈ before, isSpace c = true) :
    TakenEntries [] before where
  isPiece := Piece.spaces h
  ends := ends_spaces h (by decide) (by decide)
  parse := by
    intro fuel rest hfuel
    cases fuel with
    | zero => simp at hfuel
    | succ fuel =>
        have hskip : skipSpace (before ++ '\x7d' :: rest) = '\x7d' :: rest :=
          skipSpace_append h (by simp [isSpace])
        simp only [parseEntries, hskip]

theorem takenEntries_cons {before behind : List Char} (h : ∀ c ∈ before, isSpace c = true)
    (h' : ∀ c ∈ behind, isSpace c = true) {key : String} {front : List Char}
    (hkey : TakenKey key front) {value : Value} {piece : List Char} (hvalue : Taken value piece)
    {entries : List (String × Value)} {body : List Char} (hentries : TakenEntries entries body) :
    TakenEntries ((key, value) :: entries)
      (before ++ (',' :: (behind ++ (front ++ (piece ++ body))))) where
  isPiece := (Piece.spaces h).append (Piece.cons (by decide) (by decide) (by decide) (by decide)
    ((Piece.spaces h').append (hkey.isPiece.append (hvalue.isPiece.append hentries.isPiece))))
  ends := by
    intro rest
    rw [List.append_assoc, List.cons_append]
    exact ends_spaces h (by decide) (by decide) _
  parse := by
    intro fuel rest hfuel
    cases fuel with
    | zero => simp at hfuel
    | succ fuel =>
        simp only [List.length_cons, List.length_append] at hfuel
        have hskip : skipSpace (before ++ ',' :: (behind ++ (front ++ (piece ++
            (body ++ '\x7d' :: rest))))) =
              ',' :: (behind ++ (front ++ (piece ++ (body ++ '\x7d' :: rest)))) :=
          skipSpace_append h (by simp [isSpace])
        have hskip' : skipSpace (behind ++ (front ++ (piece ++ (body ++ '\x7d' :: rest)))) =
            front ++ (piece ++ (body ++ '\x7d' :: rest)) := skipSpace_append h' (hkey.head _)
        have hfront := hkey.parse _ (hvalue.head (body ++ '\x7d' :: rest))
        have hfirst := hvalue.parse fuel (body ++ '\x7d' :: rest) (by omega) (hentries.ends rest)
        have hrest := hentries.parse fuel rest (by omega)
        simp only [List.append_assoc, List.cons_append, parseEntries, hskip, hskip', hfront, hfirst,
          hrest, Option.bind_eq_bind, Option.bind_some, Option.pure_def]

/-- The value that starts a text is taken from it. -/
theorem Takes.value_succ {fuel : Nat} (ih : Takes fuel) {cs rest : List Char} {value : Value}
    (h : parseValue (fuel + 1) cs = some (value, rest)) :
    ∃ piece, cs = piece ++ rest ∧ Taken value piece := by
  unfold parseValue at h
  split at h
  · rename_i heq
    cases heq
  · cases h
    -- the three keywords
    refine ⟨['n', 'u', 'l', 'l'], rfl, taken_keyword (Piece.of_forall (by simp))
      ⟨'n', _, rfl, rfl, by decide⟩ (by simp [isSpace]) (by simp) ?_⟩
    intro fuel rest
    simp [parseValue]
  · cases h
    refine ⟨['t', 'r', 'u', 'e'], rfl, taken_keyword (Piece.of_forall (by simp))
      ⟨'t', _, rfl, rfl, by decide⟩ (by simp [isSpace]) (by simp) ?_⟩
    intro fuel rest
    simp [parseValue]
  · cases h
    refine ⟨['f', 'a', 'l', 's', 'e'], rfl, taken_keyword (Piece.of_forall (by simp))
      ⟨'f', _, rfl, rfl, by decide⟩ (by simp [isSpace]) (by simp) ?_⟩
    intro fuel rest
    simp [parseValue]
  · simp only [Option.bind_eq_bind, Option.bind_eq_some_iff, Option.pure_def, Option.some.injEq,
      Prod.mk.injEq] at h
    obtain ⟨⟨s, cs₁⟩, hstring, rfl, rfl⟩ := h
    -- a string, up to its closing quote
    obtain ⟨body, rfl, hbody, hparse⟩ := parseString_spec hstring
    exact ⟨'"' :: (body ++ ['"']), by simp, taken_string hbody hparse⟩
  · rename_i fuel' cs₀ heq
    cases heq
    obtain ⟨before, hbefore, hspaces, -⟩ := skipSpace_spec cs₀
    split at h
    · rename_i cs₁ hskip
      cases h
      rw [hskip] at hbefore
      -- nothing but white space between the brackets
      exact ⟨'[' :: (before ++ [']']), by simp [hbefore], taken_emptyList hspaces⟩
    · simp only [Option.bind_eq_bind, Option.bind_eq_some_iff, Option.pure_def, Option.some.injEq,
        Prod.mk.injEq] at h
      obtain ⟨⟨item, cs₁⟩, hitem, ⟨items, cs₂⟩, hitems, rfl, rfl⟩ := h
      obtain ⟨piece, hpiece, htaken⟩ := ih.value hitem
      obtain ⟨body, hbody, htakenItems⟩ := ih.items hitems
      refine ⟨'[' :: (before ++ (piece ++ (body ++ [']']))), ?_, taken_list hspaces htaken htakenItems⟩
      rw [hbefore, hpiece]
      simp only at hbody
      simp [hbody]
  · rename_i fuel' cs₀ heq
    cases heq
    obtain ⟨before, hbefore, hspaces, -⟩ := skipSpace_spec cs₀
    split at h
    · rename_i cs₁ hskip
      cases h
      rw [hskip] at hbefore
      exact ⟨'\x7b' :: (before ++ ['\x7d']), by simp [hbefore], taken_emptyDict hspaces⟩
    · simp only [Option.bind_eq_bind, Option.bind_eq_some_iff, Option.pure_def, Option.some.injEq,
        Prod.mk.injEq] at h
      obtain ⟨⟨key, cs₁⟩, hkey, ⟨first, cs₂⟩, hfirst, ⟨entries, cs₃⟩, hentries, rfl, rfl⟩ := h
      -- a key, its value and the entries behind them
      obtain ⟨front, hfront, htakenKey⟩ := parseKey_spec hkey
      obtain ⟨piece, hpiece, htaken⟩ := ih.value hfirst
      obtain ⟨body, hbody, htakenEntries⟩ := ih.entries hentries
      refine ⟨'\x7b' :: (before ++ (front ++ (piece ++ (body ++ ['\x7d'])))), ?_,
        taken_dict hspaces htakenKey htaken htakenEntries⟩
      rw [hbefore, hfront]
      simp only at hpiece hbody
      simp [hpiece, hbody]
  · rename_i fuel' cs₀ heq
    cases heq
    -- what is left is a number
    obtain ⟨piece, rfl, hpiece, hchars, hvalue, hparse⟩ := parseNegative_spec h
    exact ⟨'-' :: piece, rfl, taken_negative hpiece hchars hvalue hparse⟩
  · obtain ⟨piece, rfl, hstarts, hpiece, hchars, hvalue, hparse⟩ := parseDigits_spec h
    exact ⟨piece, rfl, taken_digits hpiece hstarts hchars hvalue hparse⟩

theorem Takes.items_succ {fuel : Nat} (ih : Takes fuel) {cs rest : List Char}
    {items : List Value} (h : parseItems (fuel + 1) cs = some (items, rest)) :
    ∃ body, cs = body ++ ']' :: rest ∧ TakenItems items body := by
  obtain ⟨before, hbefore, hspaces, -⟩ := skipSpace_spec cs
  simp only [parseItems] at h
  split at h
  · rename_i cs₁ hskip
    cases h
    rw [hskip] at hbefore
    exact ⟨before, hbefore, takenItems_nil hspaces⟩
  · rename_i cs₁ hskip
    obtain ⟨behind, hbehind, hspaces', -⟩ := skipSpace_spec cs₁
    simp only [Option.bind_eq_bind, Option.bind_eq_some_iff, Option.pure_def, Option.some.injEq,
      Prod.mk.injEq] at h
    obtain ⟨⟨item, cs₂⟩, hitem, ⟨items₁, cs₃⟩, hitems, rfl, rfl⟩ := h
    obtain ⟨piece, hpiece, htaken⟩ := ih.value hitem
    obtain ⟨body, hbody, htakenItems⟩ := ih.items hitems
    simp only at hbody
    refine ⟨before ++ (',' :: (behind ++ (piece ++ body))), ?_,
      takenItems_cons hspaces hspaces' htaken htakenItems⟩
    rw [hbefore, hskip, hbehind, hpiece, hbody]
    simp
  · cases h

theorem Takes.entries_succ {fuel : Nat} (ih : Takes fuel) {cs rest : List Char}
    {entries : List (String × Value)} (h : parseEntries (fuel + 1) cs = some (entries, rest)) :
    ∃ body, cs = body ++ '\x7d' :: rest ∧ TakenEntries entries body := by
  obtain ⟨before, hbefore, hspaces, -⟩ := skipSpace_spec cs
  simp only [parseEntries] at h
  split at h
  · rename_i cs₁ hskip
    cases h
    rw [hskip] at hbefore
    exact ⟨before, hbefore, takenEntries_nil hspaces⟩
  · rename_i cs₁ hskip
    obtain ⟨behind, hbehind, hspaces', -⟩ := skipSpace_spec cs₁
    simp only [Option.bind_eq_bind, Option.bind_eq_some_iff, Option.pure_def, Option.some.injEq,
      Prod.mk.injEq] at h
    obtain ⟨⟨key, cs₂⟩, hkey, ⟨value, cs₃⟩, hvalue, ⟨entries₁, cs₄⟩, hentries, rfl, rfl⟩ := h
    obtain ⟨front, hfront, htakenKey⟩ := parseKey_spec hkey
    obtain ⟨piece, hpiece, htaken⟩ := ih.value hvalue
    obtain ⟨body, hbody, htakenEntries⟩ := ih.entries hentries
    simp only at hpiece hbody
    refine ⟨before ++ (',' :: (behind ++ (front ++ (piece ++ body)))), ?_,
      takenEntries_cons hspaces hspaces' htakenKey htaken htakenEntries⟩
    rw [hbefore, hskip, hbehind, hfront, hpiece, hbody]
    simp
  · cases h

/-- Whatever is parsed is taken.  The induction is on the fuel. -/
theorem takes (fuel : Nat) : Takes fuel := by
  induction fuel with
  | zero => exact ⟨by simp [parseValue], by simp [parseItems], by simp [parseEntries]⟩
  | succ fuel ih => exact ⟨ih.value_succ, ih.items_succ, ih.entries_succ⟩

/-! ## Texts -/

/-- A text that is loaded is a piece that is taken for the value, with whitespace
around it. -/
theorem loads_spec {cs : List Char} {value : Value}
    (h : loads (String.ofList cs) = .ok value) :
    ∃ before piece after, cs = before ++ (piece ++ after) ∧ Taken value piece ∧
      (∀ c ∈ before, isSpace c = true) ∧ (∀ c ∈ after, isSpace c = true) := by
  unfold loads at h
  rw [String.toList_ofList] at h
  split at h
  · rename_i value' rest hparse
    split_ifs at h with hrest
    cases h
    obtain ⟨before, hbefore, hspaces, -⟩ := skipSpace_spec cs
    obtain ⟨piece, hpiece, htaken⟩ := (takes _).value hparse
    obtain ⟨after, hafter, hspaces', -⟩ := skipSpace_spec rest
    rw [hrest, List.append_nil] at hafter
    refine ⟨before, piece, rest, by rw [← hpiece, ← hbefore], htaken, hspaces, ?_⟩
    rw [hafter]
    exact hspaces'
  · cases h

/-- Whitespace around a piece is skipped. -/
theorem loads_taken {before piece after : List Char} {value : Value} (h : Taken value piece)
    (hbefore : ∀ c ∈ before, isSpace c = true) (hafter : ∀ c ∈ after, isSpace c = true) :
    loads (String.ofList (before ++ (piece ++ after))) = .ok value := by
  have hskip : skipSpace (before ++ (piece ++ after)) = piece ++ after :=
    skipSpace_append hbefore (h.head after)
  have hends : Ends after := by
    cases after with
    | nil => exact ends_nil
    | cons c after =>
        have hc := isSpace_iff.mp (hafter c (by simp))
        apply ends_cons
        · rcases hc with rfl | rfl | rfl | rfl <;> rfl
        · rcases hc with rfl | rfl | rfl | rfl <;> decide
  have hparse := h.parse ((before ++ (piece ++ after)).length + 1) after
    (by simp only [List.length_append]; omega) hends
  have hrest : skipSpace after = [] := by
    have hskip' : skipSpace (after ++ []) = [] := skipSpace_append hafter (by simp)
    rwa [List.append_nil] at hskip'
  rw [loads, String.toList_ofList, hskip, hparse]
  simp only [hrest, if_true]

/-- Whitespace behind a text does not matter. -/
theorem loads_space {cs after : List Char} {value : Value} (hafter : ∀ c ∈ after, isSpace c = true)
    (h : loads (String.ofList (cs ++ after)) = .ok value) : loads (String.ofList cs) = .ok value := by
  obtain ⟨before, piece, rest, hsplit, htaken, hbefore, hrest⟩ := loads_spec h
  rw [← List.append_assoc] at hsplit
  rcases List.append_eq_append_iff.mp hsplit with ⟨gap, hgap, hgap'⟩ | ⟨gap, rfl, rfl⟩
  · by_cases hnil : gap = []
    · subst hnil
      rw [List.append_nil] at hgap
      have hloads : loads (String.ofList (before ++ (piece ++ []))) = .ok value :=
        loads_taken htaken hbefore (by simp)
      rwa [List.append_nil, hgap] at hloads
    · -- the whitespace would reach into the piece, whose last character is none
      obtain ⟨c, hc⟩ := Option.ne_none_iff_exists'.mp (mt List.getLast?_eq_none_iff.mp hnil)
      have hpiece : piece ≠ [] := List.ne_nil_of_length_pos htaken.length_pos
      have hlast : piece.getLast? = some c := by
        rw [← List.getLast?_append_of_ne_nil before hpiece, hgap,
          List.getLast?_append_of_ne_nil cs hnil, hc]
      have hspace := hafter c (by rw [hgap']; simp [List.mem_of_getLast? hc])
      rw [htaken.last c hlast] at hspace
      cases hspace
  · rw [List.append_assoc]
    exact loads_taken htaken hbefore fun c hc => hrest c (by simp [hc])

theorem loads_legible {cs : List Char} {value : Value} (h : loads (String.ofList cs) = .ok value) :
    ∀ c ∈ cs, c.toNat < 0x20 → isSpace c = true := by
  obtain ⟨before, piece, after, rfl, htaken, hbefore, hafter⟩ := loads_spec h
  intro c hc hlow
  simp only [List.mem_append] at hc
  rcases hc with hc | hc | hc
  · exact hbefore c hc
  · exact htaken.isPiece.legible c hc hlow
  · exact hafter c hc

/-- The text of a dictionary is a pair of braces with a balanced text in it. -/
theorem loads_object {cs : List Char} {d : Dict} (h : loads (String.ofList cs) = .ok (.dict d)) :
    IsObjectText cs := by
  obtain ⟨before, piece, after, rfl, htaken, hbefore, hafter⟩ := loads_spec h
  obtain ⟨body, rfl, hbody⟩ := htaken.braces d rfl
  exact ⟨before, body, after, by simp, hbefore, hafter, hbody⟩

end JsonText
end GeventSignalR
