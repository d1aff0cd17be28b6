import Mathlib.Data.List.Basic
import Mathlib.Data.List.TakeWhile
import Mathlib.Tactic.SplitIfs

/-!
# Braces outside strings

A scanner that follows the strings and the braces of a JSON text.

* `Balanced`: the text leaves the scanner as it was and never closes a brace it has
  not opened.
* `IsObjectText`: whitespace around a pair of braces with a balanced text in it.
* `isObjectText_upToBrace_iff`: what stands in front of the first closing brace of
  such a text, that brace included, is such a text exactly when no other closing
  brace follows.
-/

namespace Python
namespace Braces

/-- The whitespace of JSON. -/
def isSpace (c : Char) : Bool :=
  c == ' ' || c == '\n' || c == '\r' || c == '\t'

/-- Where the scanner is: inside a string or not, behind a backslash or not, and
inside how many braces. -/
structure Scan where
  inString : Bool
  escaped : Bool
  depth : Nat
  deriving DecidableEq

/-- One character. -/
def Scan.step (s : Scan) (c : Char) : Scan :=
  if s.escaped then { s with escaped := false }
  else if s.inString then
    if c = '\\' then { s with escaped := true }
    else if c = '"' then { s with inString := false }
    else s
  else if c = '"' then { s with inString := true }
  else if c = '\x7b' then { s with depth := s.depth + 1 }
  else if c = '\x7d' then { s with depth := s.depth - 1 }
  else s

/-- Where the scanner is behind a text. -/
def scan (s : Scan) (cs : List Char) : Scan :=
  cs.foldl Scan.step s

/-- Inside or outside a string, and behind no backslash. -/
def between (inString : Bool) (depth : Nat) : Scan :=
  ⟨inString, false, depth⟩

/-- The braces of a text are balanced, from any depth and inside or outside a string. -/
structure Balanced (inString : Bool) (cs : List Char) : Prop where
  ends : ∀ depth, scan (between inString depth) cs = between inString depth
  within : ∀ depth front, front <+: cs → depth ≤ (scan (between inString depth) front).depth

/-- Whitespace around a pair of braces with a balanced text in it. -/
def IsObjectText (cs : List Char) : Prop :=
  ∃ before body after, cs = before ++ '\x7b' :: (body ++ '\x7d' :: after) ∧
    (∀ c ∈ before, isSpace c = true) ∧ (∀ c ∈ after, isSpace c = true) ∧ Balanced false body

@[simp] theorem scan_nil (s : Scan) : scan s [] = s := rfl

@[simp] theorem scan_cons (s : Scan) (c : Char) (cs : List Char) :
    scan s (c :: cs) = scan (s.step c) cs := rfl

@[simp] theorem scan_append (s : Scan) (cs ds : List Char) :
    scan s (cs ++ ds) = scan (scan s cs) ds := by
  simp [scan]

/-! ## Balanced texts -/

/-- A front of two texts ends in the first one or in the second one. -/
theorem front_append {front cs ds : List Char} (h : front <+: cs ++ ds) :
    front <+: cs ∨ ∃ rest, front = cs ++ rest ∧ rest <+: ds := by
  rcases List.prefix_or_prefix_of_prefix h (List.prefix_append cs ds) with hshort | hlong
  · exact .inl hshort
  · obtain ⟨rest, rfl⟩ := hlong
    exact .inr ⟨rest, rfl, (List.prefix_append_right_inj cs).mp h⟩

/-- A front of a single character. -/
theorem front_singleton {front : List Char} {c : Char} (h : front <+: [c]) :
    front = [] ∨ front = [c] := by
  rcases List.prefix_cons_iff.mp h with rfl | ⟨rest, rfl, hrest⟩
  · exact .inl rfl
  · rw [List.prefix_nil.mp hrest]
    exact .inr rfl

theorem Balanced.nil (inString : Bool) : Balanced inString [] where
  ends := fun _ => rfl
  within := by
    intro depth front h
    rw [List.prefix_nil.mp h]
    exact le_refl depth

theorem Balanced.append {inString : Bool} {cs ds : List Char} (hc : Balanced inString cs)
    (hd : Balanced inString ds) : Balanced inString (cs ++ ds) where
  ends := by
    intro depth
    rw [scan_append, hc.ends, hd.ends]
  within := by
    intro depth front h
    rcases front_append h with hfirst | ⟨rest, rfl, hrest⟩
    · exact hc.within depth front hfirst
    · rw [scan_append, hc.ends]
      exact hd.within depth rest hrest

/-- A character that leaves the scanner alone. -/
theorem Balanced.singleton {inString : Bool} {c : Char}
    (h : ∀ depth, (between inString depth).step c = between inString depth) :
    Balanced inString [c] where
  ends := fun depth => h depth
  within := by
    intro depth front hfront
    rcases front_singleton hfront with rfl | rfl
    · exact le_refl depth
    · rw [scan_cons, scan_nil, h depth]
      exact le_refl depth

/-- A character that is no quote and no brace. -/
theorem Balanced.plain {c : Char} (hquote : c ≠ '"') (hopen : c ≠ '\x7b') (hclose : c ≠ '\x7d') :
    Balanced false [c] := by
  apply Balanced.singleton
  intro depth
  simp [Scan.step, between, hquote, hopen, hclose]

/-- A character of a string that is no quote and no backslash. -/
theorem Balanced.char {c : Char} (hslash : c ≠ '\\') (hquote : c ≠ '"') : Balanced true [c] := by
  apply Balanced.singleton
  intro depth
  simp [Scan.step, between, hslash, hquote]

/-- A character of a string behind a backslash. -/
theorem Balanced.escaped (c : Char) : Balanced true ['\\', c] where
  ends := fun _ => by simp [Scan.step, between]
  within := by
    intro depth front h
    rcases List.prefix_cons_iff.mp h with rfl | ⟨rest, rfl, hrest⟩
    · exact le_refl depth
    · rcases front_singleton hrest with rfl | rfl <;> simp [Scan.step, between]

/-- A string. -/
theorem Balanced.quoted {body : List Char} (h : Balanced true body) :
    Balanced false ('"' :: (body ++ ['"'])) where
  ends := by
    intro depth
    have hopened : (between false depth).step '"' = between true depth := rfl
    rw [scan_cons, hopened, scan_append, h.ends]
    rfl
  within := by
    intro depth front hfront
    have hopened : (between false depth).step '"' = between true depth := rfl
    rcases List.prefix_cons_iff.mp hfront with rfl | ⟨rest, rfl, hrest⟩
    · exact le_refl depth
    rw [scan_cons, hopened]
    rcases front_append hrest with hbody | ⟨last, rfl, hlast⟩
    · exact h.within depth rest hbody
    · rw [scan_append, h.ends]
      rcases front_singleton hlast with rfl | rfl <;> simp [Scan.step, between]

/-- A pair of braces. -/
theorem Balanced.braces {body : List Char} (h : Balanced false body) :
    Balanced false ('\x7b' :: (body ++ ['\x7d'])) where
  ends := by
    intro depth
    have hopened : (between false depth).step '\x7b' = between false (depth + 1) := rfl
    rw [scan_cons, hopened, scan_append, h.ends]
    rfl
  within := by
    intro depth front hfront
    have hopened : (between false depth).step '\x7b' = between false (depth + 1) := rfl
    rcases List.prefix_cons_iff.mp hfront with rfl | ⟨rest, rfl, hrest⟩
    · exact le_refl depth
    rw [scan_cons, hopened]
    rcases front_append hrest with hbody | ⟨last, rfl, hlast⟩
    · have := h.within (depth + 1) rest hbody
      omega
    · rw [scan_append, h.ends]
      rcases front_singleton hlast with rfl | rfl <;> simp [Scan.step, between]

/-- A balanced text does not close the brace around it. -/
theorem Balanced.not_closed {cs body : List Char} (hbody : Balanced false body)
    (hcs : Balanced false cs) : ¬(cs ++ ['\x7d']) <+: body := by
  intro h
  have hdepth := hbody.within 1 _ h
  rw [scan_append, hcs.ends] at hdepth
  simp [Scan.step, between] at hdepth

/-! ## The first closing brace -/

/-- The text up to its first closing brace, that brace included. -/
def upToBrace (cs : List Char) : List Char :=
  cs.take (cs.idxOf '\x7d' + 1)

theorem upToBrace_append {cs : List Char} (h : '\x7d' ∉ cs) (rest : List Char) :
    upToBrace (cs ++ '\x7d' :: rest) = cs ++ ['\x7d'] := by
  have hidx : (cs ++ '\x7d' :: rest).idxOf '\x7d' = cs.length := by
    rw [List.idxOf_append_of_notMem h]
    simp
  rw [upToBrace, hidx, List.take_append, List.take_of_length_le (by omega)]
  simp

theorem brace_not_mem_of_isSpace {cs : List Char} (h : ∀ c ∈ cs, isSpace c = true) :
    '\x7d' ∉ cs :=
  fun hmem => absurd (h _ hmem) (by decide)

/-- Whitespace in front of a brace is as long as it can be. -/
theorem before_unique {before before' rest rest' : List Char}
    (h : ∀ c ∈ before, isSpace c = true) (h' : ∀ c ∈ before', isSpace c = true)
    (heq : before ++ '\x7b' :: rest = before' ++ '\x7b' :: rest') :
    before = before' ∧ rest = rest' := by
  have hspan : ∀ {cs : List Char} (ds : List Char), (∀ c ∈ cs, isSpace c = true) →
      (cs ++ '\x7b' :: ds).takeWhile isSpace = cs := by
    intro cs ds hcs
    rw [List.takeWhile_append_of_pos hcs]
    simp [show isSpace '\x7b' = false from rfl]
  have hbefore : before = before' := by
    rw [← hspan rest h, heq, hspan rest' h']
  subst hbefore
  have hrest := List.append_cancel_left heq
  exact ⟨rfl, (List.cons.inj hrest).2⟩

/-- A text that ends with its only closing brace ends with the brace of the object. -/
theorem after_eq_nil {cs body after : List Char} (h : ∀ c ∈ after, isSpace c = true)
    (heq : cs ++ ['\x7d'] = body ++ '\x7d' :: after) : after = [] ∧ body = cs := by
  cases hlast : after.reverse with
  | nil =>
      rw [List.reverse_eq_nil_iff] at hlast
      subst hlast
      exact ⟨rfl, (List.append_cancel_right heq).symm⟩
  | cons c rest =>
      have hafter : after = rest.reverse ++ [c] := by
        rw [← List.reverse_reverse after, hlast, List.reverse_cons]
      rw [hafter, ← List.cons_append, ← List.append_assoc] at heq
      have hc : [('\x7d' : Char)] = [c] := (List.append_inj' heq rfl).2
      have hspace := h c (by simp [hafter])
      rw [← List.cons.inj hc |>.1] at hspace
      exact absurd hspace (by decide)

/-- What stands in front of the first closing brace of an object's text is such a text
itself exactly when there is no other closing brace. -/
theorem isObjectText_upToBrace_iff {cs : List Char} (h : IsObjectText cs) :
    IsObjectText (upToBrace cs) ↔ cs.count '\x7d' = 1 := by
  obtain ⟨before, body, after, rfl, hbefore, hafter, hbody⟩ := h
  have hnot := brace_not_mem_of_isSpace hbefore
  have hcount : (before ++ '\x7b' :: (body ++ '\x7d' :: after)).count '\x7d' =
      body.count '\x7d' + 1 := by
    simp [List.count_append, List.count_eq_zero.mpr hnot,
      List.count_eq_zero.mpr (brace_not_mem_of_isSpace hafter)]
  have hfirst : ∀ {front rest : List Char}, '\x7d' ∉ front →
      upToBrace (before ++ '\x7b' :: (front ++ '\x7d' :: rest)) =
        before ++ '\x7b' :: (front ++ ['\x7d']) := by
    intro front rest hfront
    have hcons : '\x7d' ∉ before ++ '\x7b' :: front := by simp [hnot, hfront]
    have hcut := upToBrace_append hcons rest
    simpa using hcut
  rw [hcount]
  by_cases hmem : '\x7d' ∈ body
  · obtain ⟨front, rest, rfl, hfront⟩ := List.eq_append_cons_of_mem hmem
    have hcut : upToBrace (before ++ '\x7b' :: (front ++ '\x7d' :: rest ++ '\x7d' :: after)) =
        before ++ '\x7b' :: (front ++ ['\x7d']) := by
      rw [List.append_assoc, List.cons_append]
      exact hfirst hfront
    constructor
    · rintro ⟨before', body', after', heq, hbefore', hafter', hbody'⟩
      rw [hcut] at heq
      obtain ⟨-, hrest⟩ := before_unique hbefore hbefore' heq
      obtain ⟨-, rfl⟩ := after_eq_nil hafter' hrest
      -- the front of the body closes the brace the body stands in
      refine absurd ?_ (hbody.not_closed hbody')
      exact ⟨rest, by simp⟩
    · intro hone
      simp [List.count_append] at hone
  · constructor
    · intro _
      rw [List.count_eq_zero.mpr hmem]
    · intro _
      rw [hfirst hmem]
      exact ⟨before, body, [], rfl, hbefore, by simp, hbody⟩

theorem brace_mem_of_isObjectText {cs : List Char} (h : IsObjectText cs) : '\x7d' ∈ cs := by
  obtain ⟨before, body, after, rfl, -⟩ := h
  simp

/-- Where an object's text has one closing brace, whitespace follows it. -/
theorem append_upToBrace {cs : List Char} (h : IsObjectText cs) (hone : cs.count '\x7d' = 1) :
    ∃ after, cs = upToBrace cs ++ after ∧ ∀ c ∈ after, isSpace c = true := by
  obtain ⟨before, body, after, rfl, hbefore, hafter, hbody⟩ := h
  have hnot : '\x7d' ∉ before ++ '\x7b' :: body := by
    intro hmem
    have hpos : 0 < (before ++ '\x7b' :: body).count '\x7d' := List.count_pos_iff.mpr hmem
    simp only [List.count_append, List.count_cons, beq_self_eq_true, if_true] at hone hpos
    omega
  have hcut : upToBrace (before ++ '\x7b' :: (body ++ '\x7d' :: after)) =
      before ++ '\x7b' :: (body ++ ['\x7d']) := by
    have happend := upToBrace_append hnot after
    simpa using happend
  refine ⟨after, ?_, hafter⟩
  rw [hcut]
  simp

/-- What follows the first closing brace does not matter. -/
theorem upToBrace_append_of_mem {cs : List Char} (h : '\x7d' ∈ cs) (rest : List Char) :
    upToBrace (cs ++ rest) = upToBrace cs := by
  obtain ⟨front, behind, rfl, hfront⟩ := List.eq_append_cons_of_mem h
  rw [List.append_assoc, List.cons_append, upToBrace_append hfront, upToBrace_append hfront]

end Braces
end Python
