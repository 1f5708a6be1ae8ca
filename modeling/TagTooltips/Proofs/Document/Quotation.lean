import Mathlib.Algebra.Ring.Parity
import TagTooltips.Proofs.Document.Context

/-! Quoted values in an open tag. A value opens at a quotation mark that stands outside of one and closes
at the same mark, so the other mark may stand in it. The context behind a tag counts marks of each kind
instead; the counts tell if a value is open, but for the marks that values enclose. -/

namespace TagTooltips.Document

def quotationMarks : List Char := ['\x22', '\x27']

/-- The mark of the value that is open behind a character, from the one that is open before it. -/
def openMarkStep : Option Char → Char → Option Char
  | none, c => if c ∈ quotationMarks then some c else none
  | some mark, c => if c = mark then none else some mark

def openMark? (s : List Char) : Option Char := s.foldl openMarkStep none

/-- The character is the mark, in a value that another mark opened. -/
def isEnclosed (mark : Char) (opened : Option Char) (c : Char) : Bool :=
  c == mark && opened.any (· != mark)

def enclosed (mark : Char) : Option Char → List Char → Nat
  | _, [] => 0
  | opened, c :: s => (isEnclosed mark opened c).toNat + enclosed mark (openMarkStep opened c) s

variable {mark : Char} {opened : Option Char} {s : List Char}

theorem parity_openMarkStep (hmark : mark ∈ quotationMarks) (opened : Option Char) (c : Char) :
    ((opened == some mark).toNat + (c == mark).toNat) % 2 =
      ((isEnclosed mark opened c).toNat + (openMarkStep opened c == some mark).toNat) % 2 := by
  cases opened with
  | none =>
    by_cases hc : c = mark
    · simp [openMarkStep, isEnclosed, hc, hmark]
    · have hother : (openMarkStep none c == some mark) = false := by
        rw [openMarkStep]
        split <;> simp [hc]
      simp [isEnclosed, beq_false_of_ne hc, hother]
  | some m =>
    by_cases hm : m = mark
    · subst hm
      by_cases hc : c = m
      · simp [openMarkStep, isEnclosed, hc]
      · simp [openMarkStep, isEnclosed, hc, beq_false_of_ne hc]
    · have hother : (openMarkStep (some m) c == some mark) = false := by
        rw [openMarkStep]
        split <;> simp [hm]
      simp [isEnclosed, bne, beq_false_of_ne hm, hother]

theorem parity_openMark (hmark : mark ∈ quotationMarks) (opened : Option Char) (s : List Char) :
    ((opened == some mark).toNat + s.count mark) % 2 =
      (enclosed mark opened s + (s.foldl openMarkStep opened == some mark).toNat) % 2 := by
  -- One character keeps the balance; the equations for all of them add up.
  induction s generalizing opened with
  | nil => simp [enclosed]
  | cons c s ih =>
    have hstep := parity_openMarkStep hmark opened c
    have hrest := ih (openMarkStep opened c)
    have hcount : (c :: s).count mark = s.count mark + (c == mark).toNat := by
      rw [List.count_cons]
      cases c == mark <;> rfl
    rw [List.foldl_cons, enclosed, hcount]
    omega

theorem mem_of_openMarkStep (hopened : ∀ m ∈ opened, m ∈ quotationMarks) {c : Char}
    (h : openMarkStep opened c = some mark) : mark ∈ quotationMarks := by
  cases opened with
  | none =>
    rw [openMarkStep] at h
    split at h
    · rename_i hc
      exact Option.some.inj h ▸ hc
    · cases h
  | some m =>
    rw [openMarkStep] at h
    split at h
    · cases h
    · exact hopened mark h

theorem mem_of_foldl_openMarkStep (hopened : ∀ m ∈ opened, m ∈ quotationMarks)
    (h : s.foldl openMarkStep opened = some mark) : mark ∈ quotationMarks := by
  induction s generalizing opened with
  | nil => exact hopened mark h
  | cons c s ih => exact ih (fun m hm => mem_of_openMarkStep hopened hm) h

theorem openMark?_eq_none_iff : openMark? s = none ↔ ∀ mark ∈ quotationMarks, openMark? s ≠ some mark := by
  constructor
  · intro hnone mark _ hsome
    rw [hnone] at hsome
    cases hsome
  · intro hall
    refine Option.eq_none_iff_forall_ne_some.mpr fun mark hsome => ?_
    exact hall mark (mem_of_foldl_openMarkStep (by simp) hsome) hsome

theorem count_even_iff (hmark : mark ∈ quotationMarks) :
    Even (s.count mark) ↔ (openMark? s = some mark ↔ Odd (enclosed mark none s)) := by
  have hparity : s.count mark % 2 = (enclosed mark none s + (openMark? s == some mark).toNat) % 2 := by
    simpa [openMark?] using parity_openMark hmark none s
  rw [Nat.even_iff, Nat.odd_iff, hparity]
  by_cases hopen : openMark? s = some mark
  · simp only [hopen, beq_self_eq_true, Bool.toNat_true, true_iff]
    omega
  · simp only [beq_false_of_ne hopen, hopen, Bool.toNat_false, false_iff]
    omega

theorem isQuoted_eq_false_iff : isQuoted s = false ↔
    ∀ mark ∈ quotationMarks, (openMark? s = some mark ↔ Odd (enclosed mark none s)) := by
  have hcounts : isQuoted s = false ↔ ∀ mark ∈ quotationMarks, Even (s.count mark) := by
    simp [isQuoted, quotationMarks, Nat.even_iff]
  rw [hcounts]
  exact forall₂_congr fun mark hmark => count_even_iff hmark

/-- Behind the name of an open tag and white space, an attribute may stand exactly if each quotation mark is
open just where values enclose it an odd number of times. Where the enclosed ones are even in number, and so
where there are none, that is outside of quoted values. -/
theorem context_eq_attribute_iff {d : Document} {p : Position} {before name rest : List Char} {w : Char}
    (hbefore : d.before? p = some (before ++ '<' :: (name ++ w :: rest)))
    (hname : name ≠ []) (hchars : ∀ c ∈ name, isNameChar c) (hw : Text.isWhiteSpace w)
    (hopen : '<' ∉ rest) (hclose : '>' ∉ rest) :
    (d.context p = .attribute (String.ofList name) ∨ d.context p = .outside) ∧
    (d.context p = .attribute (String.ofList name) ↔ ∀ mark ∈ quotationMarks,
      (openMark? (w :: rest) = some mark ↔ Odd (enclosed mark none (w :: rest)))) ∧
    ((∀ mark ∈ quotationMarks, Even (enclosed mark none (w :: rest))) →
      (d.context p = .attribute (String.ofList name) ↔ openMark? (w :: rest) = none)) := by
  have hw' : isNameChar w = false := isNameChar_of_isWhiteSpace hw
  have hmarkup {x : Char} (hx : x ∉ rest) (hne : Text.isWhiteSpace x = false) : x ∉ w :: rest := by
    refine List.not_mem_cons_of_ne_of_not_mem ?_ hx
    rintro rfl
    rw [hw] at hne
    cases hne
  have hcontext : d.context p =
      if isQuoted (w :: rest) then .outside else .attribute (String.ofList name) := by
    rw [context, hbefore]
    exact contextAfter_named hname hchars hw' (hmarkup hopen (by decide)) (hmarkup hclose (by decide))
  have hattribute : d.context p = .attribute (String.ofList name) ↔ isQuoted (w :: rest) = false := by
    rw [hcontext]
    cases isQuoted (w :: rest) <;> simp
  refine ⟨?_, hattribute.trans isQuoted_eq_false_iff, fun heven => ?_⟩
  · rw [hcontext]
    cases isQuoted (w :: rest) <;> simp
  · rw [hattribute, isQuoted_eq_false_iff, openMark?_eq_none_iff]
    refine forall₂_congr fun mark hmark => ?_
    rw [iff_false_right (Nat.not_odd_iff_even.mpr (heven mark hmark))]

theorem context_eq_attribute_iff_two_enclosed :
    let d := Document.ofText "<p title=\x22it\x27s Bob\x27s\x22 "
    let rest := "title=\x22it\x27s Bob\x27s\x22 ".toList
    d.before? ⟨0, 22⟩ = some ([] ++ '<' :: (['p'] ++ ' ' :: rest)) ∧ ['p'] ≠ [] ∧
    (∀ c ∈ ['p'], isNameChar c) ∧ Text.isWhiteSpace ' ' ∧ '<' ∉ rest ∧ '>' ∉ rest ∧
    openMark? (' ' :: rest) = none ∧ d.context ⟨0, 22⟩ = .attribute "p" := by
  intro d rest
  have hbefore : d.before? ⟨0, 22⟩ = some ([] ++ '<' :: (['p'] ++ ' ' :: rest)) := by decide
  have hchars : ∀ c ∈ ['p'], isNameChar c := List.forall_mem_singleton.mpr (by decide)
  have hmarkup : '<' ∉ rest ∧ '>' ∉ rest := by decide
  have hnone : openMark? (' ' :: rest) = none := by decide
  have heven : ∀ mark ∈ quotationMarks, Even (enclosed mark none (' ' :: rest)) :=
    List.forall_mem_cons.mpr ⟨by decide, List.forall_mem_singleton.mpr (by decide)⟩
  have hcontext := context_eq_attribute_iff hbefore (by decide) hchars (by decide) hmarkup.1 hmarkup.2
  exact ⟨hbefore, by decide, hchars, by decide, hmarkup.1, hmarkup.2, hnone,
    (hcontext.2.2 heven).mpr hnone⟩

/-- An apostrophe between double quotes hides that the value is complete, and that a later one is not. -/
theorem context_enclosed_mark :
    let complete := Document.ofText "<input title=\x22it\x27s\x22 "
    let unfinished := Document.ofText "<input title=\x22it\x27s\x22 alt=\x27"
    openMark? " title=\x22it\x27s\x22 ".toList = none ∧ complete.context ⟨0, 20⟩ = .outside ∧
    openMark? " title=\x22it\x27s\x22 alt=\x27".toList = some '\x27' ∧
      unfinished.context ⟨0, 25⟩ = .attribute "input" := by
  decide

end TagTooltips.Document
