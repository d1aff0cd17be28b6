import Mathlib.Data.List.Basic
import Mathlib.Data.List.TakeWhile
import Mathlib.Tactic.SplitIfs

/-!
# The parts of a URL

`urlsplit` and `urlunsplit` of `urllib.parse`, on the characters of a URL.  The check
of the host that makes `urlsplit` raise is left out: it looks at the host alone.

* `urlsplit_wellFormed`: what `urlsplit` makes of a URL is well-formed.
* `urlsplit_urlunsplit`: well-formed parts are read back.
-/

namespace Python
namespace Url

/-- `SplitResult`, part by part. -/
structure Parts where
  scheme : List Char
  netloc : List Char
  path : List Char
  query : List Char
  fragment : List Char
  deriving DecidableEq

/-! ## urlsplit -/

/-- A character of a scheme. -/
def isSchemeChar (c : Char) : Bool :=
  c.isAlphanum || c == '+' || c == '-' || c == '.'

/-- A character that `urlsplit` removes wherever it stands. -/
def isUnsafe (c : Char) : Bool :=
  c == '\t' || c == '\r' || c == '\n'

/-- A character that ends the host. -/
def isDelimiter (c : Char) : Bool :=
  c == '/' || c == '?' || c == '#'

/-- The URL without leading blanks and control characters, and without tabs and line
breaks. -/
def clean (url : List Char) : List Char :=
  (url.dropWhile fun c => c.toNat ≤ 0x20).filter fun c => !isUnsafe c

/-- The scheme in lower case, and what follows its colon. -/
def splitScheme (url : List Char) : List Char × List Char :=
  let scheme := url.takeWhile (· != ':')
  match url.dropWhile (· != ':') with
  | [] => ([], url)
  | _ :: rest =>
      if scheme.head?.any Char.isAlpha && scheme.all isSchemeChar then
        (scheme.map Char.toLower, rest)
      else
        ([], url)

/-- The host behind two slashes, and what follows it. -/
def splitNetloc (url : List Char) : List Char × List Char :=
  match url with
  | '/' :: '/' :: rest =>
      (rest.takeWhile fun c => !isDelimiter c, rest.dropWhile fun c => !isDelimiter c)
  | _ => ([], url)

/-- What stands in front of the first separator, and what stands behind it. -/
def cut (separator : Char) (cs : List Char) : List Char × List Char :=
  (cs.takeWhile (· != separator), (cs.dropWhile (· != separator)).drop 1)

/-- `urlsplit(url)`. -/
def urlsplit (url : List Char) : Parts :=
  let (scheme, url) := splitScheme (clean url)
  let (netloc, url) := splitNetloc url
  let (url, fragment) := cut '#' url
  let (path, query) := cut '?' url
  ⟨scheme, netloc, path, query, fragment⟩

/-! ## urlunsplit -/

/-- `uses_netloc`: the schemes whose URLs have a host. -/
def usesNetloc : List String :=
  ["", "ftp", "http", "gopher", "nntp", "telnet", "imap", "wais", "file", "mms", "https", "shttp",
    "snews", "prospero", "rtsp", "rtsps", "rtspu", "rsync", "svn", "svn+ssh", "sftp", "nfs", "git",
    "git+ssh", "ws", "wss", "itms-services"]

/-- The host with its slashes, and the path. -/
def joinNetloc (scheme netloc path : List Char) : List Char :=
  if netloc ≠ [] then
    '/' :: '/' :: netloc ++ if path ≠ [] ∧ path.head? ≠ some '/' then '/' :: path else path
  else if path.take 2 = ['/', '/'] then
    '/' :: '/' :: path
  else if scheme ≠ [] ∧ String.ofList scheme ∈ usesNetloc ∧ (path = [] ∨ path.head? = some '/') then
    '/' :: '/' :: path
  else
    path

/-- A part with its separator in front, which is left out with an empty part. -/
def optional (separator : Char) (part : List Char) : List Char :=
  if part = [] then [] else separator :: part

/-- `urlunsplit(parts)`. -/
def urlunsplit (parts : Parts) : List Char :=
  (if parts.scheme = [] then [] else parts.scheme ++ [':']) ++
    (joinNetloc parts.scheme parts.netloc parts.path ++
      (optional '?' parts.query ++ optional '#' parts.fragment))

/-! ## Well-formed parts -/

/-- A scheme that is read back. -/
structure IsScheme (scheme : List Char) : Prop where
  starts : scheme.head?.any Char.isAlpha = true
  chars : scheme.all isSchemeChar = true
  lower : scheme.map Char.toLower = scheme

/-- The parts of a URL.  Behind a host the path is absolute; without scheme and host it does not
start like a scheme. -/
structure Parts.WellFormed (parts : Parts) : Prop where
  scheme : parts.scheme = [] ∨ IsScheme parts.scheme
  netloc : ∀ c ∈ parts.netloc, isDelimiter c = false ∧ isUnsafe c = false
  absolute : parts.netloc ≠ [] → parts.path = [] ∨ parts.path.head? = some '/'
  relative : parts.scheme = [] → parts.netloc = [] →
    (splitScheme parts.path).1 = [] ∧ ∀ c ∈ parts.path.head?, 0x20 < c.toNat
  path : ∀ c ∈ parts.path, c ≠ '?' ∧ c ≠ '#' ∧ isUnsafe c = false
  query : ∀ c ∈ parts.query, c ≠ '#' ∧ isUnsafe c = false
  fragment : ∀ c ∈ parts.fragment, isUnsafe c = false

theorem cut_append {separator : Char} {before : List Char} (after : List Char)
    (h : ∀ c ∈ before, c ≠ separator) :
    cut separator (before ++ optional separator after) = (before, after) := by
  have hall : ∀ c ∈ before, (c != separator) = true := by simpa using h
  unfold cut
  rw [List.takeWhile_append_of_pos hall, List.dropWhile_append_of_pos hall, optional]
  split_ifs with hnil
  · simp [hnil]
  · simp

theorem cut_fst_ne {separator : Char} {cs : List Char} :
    ∀ c ∈ (cut separator cs).1, c ≠ separator := by
  intro c hc
  simpa using List.mem_takeWhile_imp hc

theorem mem_of_mem_cut {separator : Char} {cs : List Char} {c : Char}
    (h : c ∈ (cut separator cs).1 ∨ c ∈ (cut separator cs).2) : c ∈ cs := by
  rcases h with h | h
  · exact (List.takeWhile_prefix _).subset h
  · exact (List.dropWhile_suffix _).subset (List.mem_of_mem_drop h)

/-- Cutting behind the host leaves the path empty or absolute. -/
theorem cut_head (separator : Char) (cs : List Char) :
    (cut separator cs).1 = [] ∨ (cut separator cs).1.head? = cs.head? := by
  cases cs with
  | nil => exact .inl rfl
  | cons c cs =>
      by_cases h : c = separator
      · exact .inl (by simp [cut, h])
      · exact .inr (by simp [cut, h])

theorem isUnsafe_of_mem_clean {url : List Char} {c : Char} (h : c ∈ clean url) :
    isUnsafe c = false := by
  have := (List.mem_filter.mp h).2
  simpa using this

theorem toNat_lt_of_isSchemeChar {c : Char} (h : isSchemeChar c = true) : c.toNat < 128 := by
  simp only [isSchemeChar, Bool.or_eq_true, beq_iff_eq] at h
  rcases h with ((h | rfl) | rfl) | rfl
  · have hrange : (decide ('A'.val ≤ c.val ∧ c.val ≤ 'Z'.val) ||
        (decide ('a'.val ≤ c.val) && decide (c.val ≤ 'z'.val)) ||
          (decide ('0'.val ≤ c.val) && decide (c.val ≤ '9'.val))) = true := h
    simp only [Bool.or_eq_true, Bool.and_eq_true, decide_eq_true_eq,
      UInt32.le_iff_toNat_le] at hrange
    have hz : 'z'.val.toNat = 122 := rfl
    have hZ : 'Z'.val.toNat = 90 := rfl
    have hnine : '9'.val.toNat = 57 := rfl
    show c.val.toNat < 128
    omega
  all_goals decide

/-- What is true of all ASCII characters is true of a character of a scheme. -/
theorem forall_isSchemeChar {p : Char → Prop} (h : ∀ n, n < 128 → p (Char.ofNat n)) {c : Char}
    (hc : isSchemeChar c = true) : p c := by
  have := h c.toNat (toNat_lt_of_isSchemeChar hc)
  rwa [Char.ofNat_toNat] at this

set_option maxRecDepth 4000 in
/-- A scheme in lower case is a scheme in lower case. -/
theorem toLower_isSchemeChar {c : Char} (hc : isSchemeChar c = true) :
    isSchemeChar c.toLower = true ∧ c.toLower.toLower = c.toLower ∧
      (c.isAlpha = true → c.toLower.isAlpha = true) := by
  apply forall_isSchemeChar
    (p := fun c => isSchemeChar c = true → isSchemeChar c.toLower = true ∧
      c.toLower.toLower = c.toLower ∧ (c.isAlpha = true → c.toLower.isAlpha = true)) ?_ hc hc
  decide

/-- A character of a scheme is no colon, no blank and no character that is removed. -/
theorem isSchemeChar_ne {c : Char} (hc : isSchemeChar c = true) :
    c ≠ ':' ∧ 0x20 < c.toNat ∧ isUnsafe c = false := by
  apply forall_isSchemeChar
    (p := fun c => isSchemeChar c = true → c ≠ ':' ∧ 0x20 < c.toNat ∧ isUnsafe c = false) ?_ hc hc
  decide

theorem clean_eq {url : List Char} (hhead : ∀ c ∈ url.head?, 0x20 < c.toNat)
    (hsafe : ∀ c ∈ url, isUnsafe c = false) : clean url = url := by
  have hdrop : url.dropWhile (fun c => decide (c.toNat ≤ 0x20)) = url := by
    cases url with
    | nil => rfl
    | cons c url =>
        have := hhead c (by simp)
        rw [List.dropWhile_cons_of_neg]
        simpa using this
  rw [clean, hdrop, List.filter_eq_self]
  intro c hc
  simp [hsafe c hc]

/-! ## What urlsplit returns -/

/-- The scheme is one that is read back, and what follows it is a part of the URL. -/
theorem splitScheme_spec (url : List Char) :
    ((splitScheme url).1 = [] ∨ IsScheme (splitScheme url).1) ∧
      ∀ c ∈ (splitScheme url).2, c ∈ url := by
  unfold splitScheme
  dsimp only
  split
  · exact ⟨.inl rfl, fun c hc => hc⟩
  · rename_i colon rest hrest
    split_ifs with hscheme
    · rw [Bool.and_eq_true] at hscheme
      obtain ⟨hstarts, hchars⟩ := hscheme
      constructor
      · right
        cases hword : url.takeWhile (· != ':') with
        | nil => simp [hword] at hstarts
        | cons c word =>
            rw [hword] at hstarts hchars
            have hall : ∀ d ∈ c :: word, isSchemeChar d = true := List.all_eq_true.mp hchars
            have hfirst := toLower_isSchemeChar (hall c (by simp))
            constructor
            · have halpha : c.isAlpha = true := by simpa using hstarts
              simpa using hfirst.2.2 halpha
            · rw [List.all_map, List.all_eq_true]
              intro d hd
              exact (toLower_isSchemeChar (hall d hd)).1
            · rw [List.map_map, List.map_inj_left]
              intro d hd
              exact (toLower_isSchemeChar (hall d hd)).2.1
      · intro c hc
        have hmem : c ∈ url.dropWhile (· != ':') := by
          rw [hrest]
          exact List.mem_cons_of_mem _ hc
        exact (List.dropWhile_suffix _).subset hmem
    · exact ⟨.inl rfl, fun c hc => hc⟩

/-- A URL whose scheme is empty has none. -/
theorem splitScheme_of_nil {url : List Char} (h : (splitScheme url).1 = []) :
    splitScheme url = ([], url) := by
  unfold splitScheme at h ⊢
  dsimp only at h ⊢
  split
  · rfl
  · rename_i colon rest hrest
    simp only [hrest] at h
    split_ifs at h ⊢ with hscheme
    · rw [List.map_eq_nil_iff] at h
      simp [h] at hscheme
    · rfl

/-- There is no scheme where there is no colon, or no scheme in front of it. -/
theorem splitScheme_nil_iff {url : List Char} :
    (splitScheme url).1 = [] ↔ (':' ∈ url →
      ((url.takeWhile (· != ':')).head?.any Char.isAlpha &&
        (url.takeWhile (· != ':')).all isSchemeChar) = false) := by
  have hcolon : url.dropWhile (· != ':') = [] ↔ ':' ∉ url := by
    rw [List.dropWhile_eq_nil_iff]
    constructor
    · intro h hmem
      simpa using h ':' hmem
    · intro h c hc
      simp only [bne_iff_ne, ne_eq]
      rintro rfl
      exact h hc
  unfold splitScheme
  dsimp only
  split
  · rename_i hnil
    exact iff_of_true rfl fun hmem => absurd hmem (hcolon.mp hnil)
  · rename_i colon rest hrest
    have hmem : ':' ∈ url := by
      by_contra hnot
      rw [hcolon.mpr hnot] at hrest
      cases hrest
    split_ifs with hscheme
    · refine iff_of_false ?_ fun h => ?_
      · intro hnil
        rw [List.map_eq_nil_iff] at hnil
        simp [hnil] at hscheme
      · rw [h hmem] at hscheme
        cases hscheme
    · exact iff_of_true rfl fun _ => by simpa using hscheme

theorem takeWhile_append_of_colon {front : List Char} (h : ':' ∈ front) (rest : List Char) :
    (front ++ rest).takeWhile (· != ':') = front.takeWhile (· != ':') := by
  induction front with
  | nil => cases h
  | cons c front ih =>
      by_cases hc : c = ':'
      · simp [hc]
      · have hmem : ':' ∈ front := by
          rcases List.mem_cons.mp h with heq | hmem
          · exact absurd heq.symm hc
          · exact hmem
        simp [hc, ih hmem]

/-- What a URL without scheme starts with has no scheme. -/
theorem splitScheme_nil_left {front rest : List Char} (h : (splitScheme (front ++ rest)).1 = []) :
    (splitScheme front).1 = [] := by
  rw [splitScheme_nil_iff] at h ⊢
  intro hmem
  have hwhole := h (List.mem_append_left _ hmem)
  rwa [takeWhile_append_of_colon hmem] at hwhole

/-- A delimiter ends what could be a scheme. -/
theorem splitScheme_nil_append {front rest : List Char} (h : (splitScheme front).1 = [])
    (hrest : ∀ c ∈ rest.head?, isDelimiter c = true) : (splitScheme (front ++ rest)).1 = [] := by
  rw [splitScheme_nil_iff] at h ⊢
  intro hmem
  by_cases hfront : ':' ∈ front
  · rw [takeWhile_append_of_colon hfront]
    exact h hfront
  · -- the colon stands behind the delimiter, which is no character of a scheme
    have hall : ∀ c ∈ front, (c != ':') = true := by
      intro c hc
      simp only [bne_iff_ne, ne_eq]
      rintro rfl
      exact hfront hc
    cases rest with
    | nil => exact absurd (by simpa using hmem) hfront
    | cons d rest =>
        have hd : isDelimiter d = true := hrest d (by simp)
        have hnot : isSchemeChar d = false ∧ d ≠ ':' := by
          simp only [isDelimiter, Bool.or_eq_true, beq_iff_eq] at hd
          rcases hd with (rfl | rfl) | rfl <;> decide
        rw [List.takeWhile_append_of_pos hall, List.takeWhile_cons_of_pos (by simpa using hnot.2),
          List.all_append, List.all_cons, hnot.1, Bool.false_and, Bool.and_false, Bool.and_false]

/-- What starts with a slash has no scheme. -/
theorem splitScheme_slash (rest : List Char) : splitScheme ('/' :: rest) = ([], '/' :: rest) := by
  apply splitScheme_of_nil
  have hslash : (splitScheme ([] ++ '/' :: rest)).1 = [] :=
    splitScheme_nil_append rfl fun c hc => by cases hc; rfl
  exact hslash

/-- The host has no delimiter, and a delimiter or nothing follows it. -/
theorem splitNetloc_spec (url : List Char) :
    (∀ c ∈ (splitNetloc url).1, isDelimiter c = false ∧ c ∈ url) ∧
      (∀ c ∈ (splitNetloc url).2, c ∈ url) ∧
        (splitNetloc url = ([], url) ∨
          ∀ c ∈ (splitNetloc url).2.head?, isDelimiter c = true) := by
  unfold splitNetloc
  split
  · rename_i rest
    refine ⟨?_, ?_, .inr ?_⟩
    · intro c hc
      have hmem : c ∈ rest := (List.takeWhile_prefix _).subset hc
      exact ⟨by simpa using List.mem_takeWhile_imp hc, by simp [hmem]⟩
    · intro c hc
      have hmem : c ∈ rest := (List.dropWhile_suffix _).subset hc
      simp [hmem]
    · intro c hc
      have hne := List.head?_dropWhile_not (fun c => !isDelimiter c) rest
      rw [Option.mem_def.mp hc] at hne
      simpa using hne
  · exact ⟨fun c hc => (by cases hc), fun c hc => hc, .inl rfl⟩

/-- The path that is cut off behind a delimiter is empty or absolute. -/
theorem path_of_delimiter {tail : List Char} (h : ∀ c ∈ tail.head?, isDelimiter c = true) :
    (cut '?' (cut '#' tail).1).1 = [] ∨ (cut '?' (cut '#' tail).1).1.head? = some '/' := by
  rcases cut_head '?' (cut '#' tail).1 with hnil | hsame
  · exact .inl hnil
  rcases cut_head '#' tail with hnil | hsame'
  · exact .inl (by rw [hnil]; rfl)
  cases hfirst : (cut '?' (cut '#' tail).1).1 with
  | nil => exact .inl rfl
  | cons c path =>
      -- the first character is a delimiter, and neither of the two that are cut at
      have hc : c ∈ (cut '?' (cut '#' tail).1).1 := by simp [hfirst]
      have hquestion : c ≠ '?' := cut_fst_ne c hc
      have hhash : c ≠ '#' := cut_fst_ne c (mem_of_mem_cut (.inl hc))
      rw [hfirst, hsame', List.head?_cons] at hsame
      have hdelimiter := h c hsame.symm
      simp only [isDelimiter, Bool.or_eq_true, beq_iff_eq] at hdelimiter
      rcases hdelimiter with (rfl | rfl) | rfl
      · exact .inr rfl
      · exact absurd rfl hquestion
      · exact absurd rfl hhash

/-- What is cut off stands in front. -/
theorem cut_append_eq (separator : Char) (cs : List Char) :
    ∃ rest, (cut separator cs).1 ++ rest = cs :=
  ⟨_, List.takeWhile_append_dropWhile⟩

/-- No blank stands in front. -/
theorem clean_head (url : List Char) : ∀ c ∈ (clean url).head?, 0x20 < c.toNat := by
  intro c hc
  unfold clean at hc
  cases hrest : url.dropWhile fun c => decide (c.toNat ≤ 0x20) with
  | nil =>
      rw [hrest] at hc
      cases hc
  | cons d rest =>
      have hd : 0x20 < d.toNat := by
        have hne := List.head?_dropWhile_not (fun c => decide (c.toNat ≤ 0x20)) url
        rw [hrest] at hne
        simpa using hne
      have hsafe : isUnsafe d = false := by
        simp only [isUnsafe, Bool.or_eq_false_iff, beq_eq_false_iff_ne]
        refine ⟨⟨?_, ?_⟩, ?_⟩ <;> rintro rfl <;> exact absurd hd (by decide)
      rw [hrest, List.filter_cons_of_pos (by simp [hsafe])] at hc
      cases hc
      exact hd

/-- The parts of a URL are well-formed. -/
theorem urlsplit_wellFormed (url : List Char) : (urlsplit url).WellFormed := by
  obtain ⟨hscheme, hrest⟩ := splitScheme_spec (clean url)
  obtain ⟨hhost, htail, hhead⟩ := splitNetloc_spec (splitScheme (clean url)).2
  have hsafe : ∀ c ∈ (splitScheme (clean url)).2, isUnsafe c = false :=
    fun c hc => isUnsafe_of_mem_clean (hrest c hc)
  have hnetloc : (urlsplit url).netloc = (splitNetloc (splitScheme (clean url)).2).1 := rfl
  generalize hu : (splitNetloc (splitScheme (clean url)).2).2 = tail at htail hhead
  have hpath : (urlsplit url).path = (cut '?' (cut '#' tail).1).1 := by
    rw [← hu]
    rfl
  have hquery : (urlsplit url).query = (cut '?' (cut '#' tail).1).2 := by
    rw [← hu]
    rfl
  have hfragment : (urlsplit url).fragment = (cut '#' tail).2 := by
    rw [← hu]
    rfl
  constructor
  · exact hscheme
  · intro c hc
    exact ⟨(hhost c hc).1, hsafe c (hhost c hc).2⟩
  · intro hne
    rw [hpath]
    rcases hhead with hnone | hhead
    · rw [hnetloc, hnone] at hne
      exact absurd rfl hne
    · exact path_of_delimiter hhead
  · intro hnoScheme _
    have hurl : splitScheme (clean url) = ([], clean url) := splitScheme_of_nil hnoScheme
    rw [hpath]
    rcases hhead with hnone | hhead
    · -- the path is what the URL starts with
      rw [hnone, hurl] at hu
      have hwhole : clean url = tail := hu
      obtain ⟨fragment, hfragment⟩ := cut_append_eq '#' tail
      obtain ⟨query, hquery⟩ := cut_append_eq '?' (cut '#' tail).1
      have hfront : (cut '?' (cut '#' tail).1).1 ++ (query ++ fragment) = clean url := by
        rw [← List.append_assoc, hquery, hfragment, hwhole]
      have hnone : (splitScheme ((cut '?' (cut '#' tail).1).1 ++ (query ++ fragment))).1 = [] := by
        rw [hfront, hurl]
      refine ⟨splitScheme_nil_left hnone, fun c hc => ?_⟩
      apply clean_head url
      rw [← hfront, List.head?_append, Option.mem_def.mp hc]
      rfl
    · rcases path_of_delimiter hhead with hnil | hslash
      · rw [hnil]
        exact ⟨rfl, fun c hc => by cases hc⟩
      · obtain ⟨path, hslash'⟩ := List.head?_eq_some_iff.mp hslash
        rw [hslash', splitScheme_slash]
        refine ⟨rfl, fun c hc => ?_⟩
        cases hc
        decide
  · rw [hpath]
    intro c hc
    have hc' := mem_of_mem_cut (.inl hc)
    exact ⟨cut_fst_ne c hc, cut_fst_ne c hc', hsafe c (htail c (mem_of_mem_cut (.inl hc')))⟩
  · rw [hquery]
    intro c hc
    have hc' := mem_of_mem_cut (.inr hc)
    exact ⟨cut_fst_ne c hc', hsafe c (htail c (mem_of_mem_cut (.inl hc')))⟩
  · rw [hfragment]
    intro c hc
    exact hsafe c (htail c (mem_of_mem_cut (.inr hc)))

/-! ## The round trip -/

theorem splitScheme_scheme {scheme : List Char} (h : IsScheme scheme) (rest : List Char) :
    splitScheme (scheme ++ ':' :: rest) = (scheme, rest) := by
  have hall : ∀ c ∈ scheme, (c != ':') = true := by
    intro c hc
    simpa using (isSchemeChar_ne (List.all_eq_true.mp h.chars c hc)).1
  have htake : (scheme ++ ':' :: rest).takeWhile (· != ':') = scheme := by
    rw [List.takeWhile_append_of_pos hall]
    simp
  have hdrop : (scheme ++ ':' :: rest).dropWhile (· != ':') = ':' :: rest := by
    rw [List.dropWhile_append_of_pos hall]
    simp
  simp only [splitScheme, htake, hdrop, h.starts, h.chars, Bool.and_self, if_true, h.lower]

theorem splitNetloc_netloc {netloc tail : List Char} (h : ∀ c ∈ netloc, isDelimiter c = false)
    (htail : ∀ c ∈ tail.head?, isDelimiter c = true) :
    splitNetloc ('/' :: '/' :: (netloc ++ tail)) = (netloc, tail) := by
  have hall : ∀ c ∈ netloc, (!isDelimiter c) = true := by
    intro c hc
    simp [h c hc]
  simp only [splitNetloc]
  rw [List.takeWhile_append_of_pos hall, List.dropWhile_append_of_pos hall]
  cases tail with
  | nil => simp
  | cons c tail =>
      have hc := htail c (by simp)
      simp [hc]

theorem mem_optional {separator c : Char} {part : List Char} (h : c ∈ optional separator part) :
    c = separator ∨ c ∈ part := by
  unfold optional at h
  split_ifs at h
  · simp at h
  · simpa using h

/-- The scheme with its colon, or nothing. -/
def prefixOf (scheme : List Char) : List Char :=
  if scheme = [] then [] else scheme ++ [':']

variable {scheme rest : List Char}

theorem prefixOf_append (hscheme : scheme = [] ∨ IsScheme scheme)
    (hrest : scheme = [] → (splitScheme rest).1 = []) :
    splitScheme (prefixOf scheme ++ rest) = (scheme, rest) := by
  unfold prefixOf
  rcases hscheme with rfl | hscheme
  · exact splitScheme_of_nil (hrest rfl)
  · have hnil : scheme ≠ [] := by
      rintro rfl
      simpa using hscheme.starts
    rw [if_neg hnil, List.append_assoc, List.singleton_append, splitScheme_scheme hscheme]

/-- Nothing is removed from a URL with a scheme or without one. -/
theorem clean_prefixOf (hscheme : scheme = [] ∨ IsScheme scheme)
    (hhead : scheme = [] → ∀ c ∈ rest.head?, 0x20 < c.toNat)
    (hrest : ∀ c ∈ rest, isUnsafe c = false) :
    clean (prefixOf scheme ++ rest) = prefixOf scheme ++ rest := by
  unfold prefixOf
  rcases hscheme with rfl | hscheme
  · exact clean_eq (hhead rfl) hrest
  · have hchars : ∀ c ∈ scheme, isSchemeChar c = true := List.all_eq_true.mp hscheme.chars
    cases scheme with
    | nil => simpa using hscheme.starts
    | cons d scheme =>
        rw [if_neg (List.cons_ne_nil d scheme)]
        apply clean_eq
        · intro c hc
          have hc' : c = d := by simpa [eq_comm] using hc
          rw [hc']
          exact (isSchemeChar_ne (hchars d (by simp))).2.1
        · intro c hc
          rcases List.mem_append.mp hc with hc | hc
          · rcases List.mem_append.mp hc with hc | hc
            · exact (isSchemeChar_ne (hchars c hc)).2.2
            · rw [List.mem_singleton.mp hc]
              rfl
          · exact hrest c hc

/-- In front of the path stand two slashes, or there is no host and nothing stands there. -/
theorem joinNetloc_cases (scheme netloc path : List Char) :
    (∃ rest, joinNetloc scheme netloc path = '/' :: '/' :: rest) ∨
      netloc = [] ∧ joinNetloc scheme netloc path = path := by
  unfold joinNetloc
  split
  · exact .inl ⟨_, rfl⟩
  · rename_i hnetloc
    split
    · exact .inl ⟨_, rfl⟩
    · split
      · exact .inl ⟨_, rfl⟩
      · exact .inr ⟨not_not.mp hnetloc, rfl⟩

theorem mem_joinNetloc {netloc path : List Char} {c : Char}
    (h : c ∈ joinNetloc scheme netloc path) : c = '/' ∨ c ∈ netloc ∨ c ∈ path := by
  unfold joinNetloc at h
  split_ifs at h
  · simp only [List.cons_append, List.mem_cons, List.mem_append] at h
    tauto
  · simp only [List.cons_append, List.mem_cons, List.mem_append] at h
    tauto
  · simp only [List.mem_cons] at h
    tauto
  · simp only [List.mem_cons] at h
    tauto
  · exact .inr (.inr h)

namespace Parts

variable {parts : Parts}

/-- What stands behind the path. -/
def ending (parts : Parts) : List Char :=
  optional '?' parts.query ++ optional '#' parts.fragment

/-- What stands behind the host. -/
def tail (parts : Parts) : List Char :=
  parts.path ++ parts.ending

/-- What stands behind the scheme. -/
def body (parts : Parts) : List Char :=
  joinNetloc parts.scheme parts.netloc parts.path ++ parts.ending

theorem urlunsplit_eq (parts : Parts) :
    urlunsplit parts = prefixOf parts.scheme ++ parts.body := rfl

theorem ending_head (parts : Parts) : ∀ c ∈ parts.ending.head?, c = '?' ∨ c = '#' := by
  intro c hc
  unfold ending optional at hc
  split_ifs at hc <;> simp at hc <;> subst hc <;> simp

theorem isDelimiter_ending (parts : Parts) : ∀ c ∈ parts.ending.head?, isDelimiter c = true := by
  intro c hc
  rcases parts.ending_head c hc with rfl | rfl <;> rfl

theorem isDelimiter_tail (h : parts.path = [] ∨ parts.path.head? = some '/') :
    ∀ c ∈ parts.tail.head?, isDelimiter c = true := by
  intro c hc
  unfold tail at hc
  rcases h with hnil | hhead
  · rw [hnil, List.nil_append] at hc
    exact parts.isDelimiter_ending c hc
  · rw [List.head?_append, hhead] at hc
    cases hc
    rfl

namespace WellFormed

theorem tail_isUnsafe (h : parts.WellFormed) : ∀ c ∈ parts.tail, isUnsafe c = false := by
  intro c hc
  rcases List.mem_append.mp hc with hc | hc
  · exact (h.path c hc).2.2
  rcases List.mem_append.mp hc with hc | hc
  · rcases mem_optional hc with rfl | hc
    · rfl
    · exact (h.query c hc).2
  · rcases mem_optional hc with rfl | hc
    · rfl
    · exact h.fragment c hc

theorem body_isUnsafe (h : parts.WellFormed) : ∀ c ∈ parts.body, isUnsafe c = false := by
  intro c hc
  rcases List.mem_append.mp hc with hc | hc
  · rcases mem_joinNetloc hc with rfl | hc | hc
    · rfl
    · exact (h.netloc c hc).2
    · exact (h.path c hc).2.2
  · exact h.tail_isUnsafe c (List.mem_append_right _ hc)

/-- Without a scheme, what is written in its place is not taken for one. -/
theorem body_noScheme (h : parts.WellFormed) (hscheme : parts.scheme = []) :
    (splitScheme parts.body).1 = [] ∧ ∀ c ∈ parts.body.head?, 0x20 < c.toNat := by
  unfold body
  rcases joinNetloc_cases parts.scheme parts.netloc parts.path with ⟨rest, hslash⟩ | ⟨hnone, hpath⟩
  · rw [hslash, List.cons_append, splitScheme_slash]
    refine ⟨rfl, fun c hc => ?_⟩
    cases hc
    decide
  · obtain ⟨hrelative, hhead⟩ := h.relative hscheme hnone
    rw [hpath]
    refine ⟨splitScheme_nil_append hrelative parts.isDelimiter_ending, fun c hc => ?_⟩
    cases hfirst : parts.path.head? with
    | none =>
        rw [List.head?_append, hfirst, Option.none_or] at hc
        rcases parts.ending_head c hc with rfl | rfl <;> decide
    | some d =>
        rw [List.head?_append, hfirst] at hc
        cases hc
        exact hhead _ hfirst

/-- The path can be cut short and end in a slash and other characters of a path. -/
theorem path_slash (h : parts.WellFormed) {front back : List Char}
    (hpath : parts.path = front ++ back) {tail : List Char}
    (htail : ∀ c ∈ tail, c ≠ '?' ∧ c ≠ '#' ∧ isUnsafe c = false) :
    WellFormed { parts with path := front ++ '/' :: tail } := by
  refine { h with absolute := ?_, relative := ?_, path := ?_ }
  · intro hnetloc
    right
    cases front with
    | nil => rfl
    | cons c front =>
        rcases h.absolute hnetloc with hnil | hslash
        · rw [hpath] at hnil
          cases hnil
        · rwa [hpath] at hslash
  · intro hscheme hnetloc
    obtain ⟨hnone, hhead⟩ := h.relative hscheme hnetloc
    rw [hpath] at hnone hhead
    refine ⟨splitScheme_nil_append (splitScheme_nil_left hnone) (by simp [isDelimiter]), ?_⟩
    cases front with
    | nil => simp
    | cons c front => exact hhead
  · intro c hc
    rcases List.mem_append.mp hc with hc | hc
    · exact h.path c (hpath ▸ List.mem_append_left _ hc)
    rcases List.mem_cons.mp hc with rfl | hc
    · decide
    · exact htail c hc

/-- A path without two slashes in front is not taken for a host. -/
theorem splitNetloc_tail (hpath : parts.path.take 2 ≠ ['/', '/']) :
    splitNetloc parts.tail = ([], parts.tail) := by
  have hending : ∀ rest, parts.ending ≠ '/' :: rest := by
    intro rest hslash
    have hfirst := parts.ending_head '/' (by simp [hslash])
    simp at hfirst
  unfold splitNetloc
  split
  · rename_i rest htail
    unfold tail at htail
    exfalso
    rcases hcases : parts.path with _ | ⟨c, _ | ⟨d, path⟩⟩
    · rw [hcases] at htail
      exact hending _ htail
    · rw [hcases, List.singleton_append, List.cons.injEq] at htail
      exact hending _ htail.2
    · rw [hcases, List.cons_append, List.cons_append, List.cons.injEq, List.cons.injEq] at htail
      obtain ⟨rfl, rfl, -⟩ := htail
      exact hpath (by simp [hcases])
  · rfl

/-- The host is read back, and ends where it should. -/
theorem splitNetloc_body (h : parts.WellFormed) :
    splitNetloc parts.body = (parts.netloc, parts.tail) := by
  by_cases hnetloc : parts.netloc = []
  · have hslashes : (parts.path = [] ∨ parts.path.head? = some '/') →
        splitNetloc ('/' :: '/' :: parts.tail) = ([], parts.tail) := by
      intro habsolute
      have hempty : ∀ c ∈ ([] : List Char), isDelimiter c = false := by simp
      exact splitNetloc_netloc hempty (isDelimiter_tail habsolute)
    unfold body joinNetloc
    rw [hnetloc, if_neg (by simp)]
    split_ifs with htwo habsolute
    · apply hslashes
      right
      have hhead := congrArg List.head? htwo
      rwa [List.head?_take, if_neg (by decide)] at hhead
    · exact hslashes habsolute.2.2
    · exact splitNetloc_tail htwo
  · have hslash : ¬(parts.path ≠ [] ∧ parts.path.head? ≠ some '/') := by
      rintro ⟨hnil, hhead⟩
      exact (h.absolute hnetloc).elim hnil hhead
    have hbody : parts.body = '/' :: '/' :: (parts.netloc ++ parts.tail) := by
      simp [body, joinNetloc, if_pos hnetloc, if_neg hslash, tail]
    rw [hbody]
    exact splitNetloc_netloc (fun c hc => (h.netloc c hc).1) (isDelimiter_tail (h.absolute hnetloc))

theorem cut_tail (h : parts.WellFormed) :
    cut '#' parts.tail = (parts.path ++ optional '?' parts.query, parts.fragment) := by
  have hhash : ∀ c ∈ parts.path ++ optional '?' parts.query, c ≠ '#' := by
    intro c hc
    rcases List.mem_append.mp hc with hc | hc
    · exact (h.path c hc).2.1
    · rcases mem_optional hc with rfl | hc
      · decide
      · exact (h.query c hc).1
  rw [tail, ending, ← List.append_assoc]
  exact cut_append parts.fragment hhash

end WellFormed

end Parts

/-- The URL of well-formed parts is read back part by part. -/
theorem urlsplit_urlunsplit {parts : Parts} (h : parts.WellFormed) :
    urlsplit (urlunsplit parts) = parts := by
  have hclean := clean_prefixOf h.scheme (fun hscheme => (h.body_noScheme hscheme).2)
    h.body_isUnsafe
  have hsplit := prefixOf_append h.scheme fun hscheme => (h.body_noScheme hscheme).1
  have hcut := cut_append parts.query fun c hc => (h.path c hc).1
  simp only [urlsplit, parts.urlunsplit_eq, hclean, hsplit, h.splitNetloc_body, h.cut_tail, hcut]

end Url
end Python
