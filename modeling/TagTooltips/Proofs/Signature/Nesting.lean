import Mathlib.Data.List.Basic
import TagTooltips.Signature.Cursor

/-! Well-nested texts: plain characters and groups in brackets, the contents of which are well-nested
again. A parser that reads forwards with a stack of open groups accepts exactly these texts, and finds
what stands behind the last dot outside all groups. -/

namespace TagTooltips.Signature

def IsPlain (c : Char) : Prop := ∀ b : Bracket, c ≠ b.opening ∧ c ≠ b.closing

/-- A well-nested text, and its characters outside all groups. -/
inductive Nested : List Char → List Char → Prop
  | nil : Nested [] []
  | plain {c : Char} {s outside : List Char} (hc : IsPlain c) (hs : Nested s outside) :
      Nested (c :: s) (c :: outside)
  | group (b : Bracket) {inside hidden s outside : List Char} (hi : Nested inside hidden)
      (hs : Nested s outside) : Nested (b.opening :: (inside ++ b.closing :: s)) outside

def WellNested (s : List Char) : Prop := ∃ outside, Nested s outside

def IsSegment (s : List Char) : Prop := ∃ outside, Nested s outside ∧ '.' ∉ outside

def HasOuterDot (s : List Char) : Prop := ∃ outside, Nested s outside ∧ '.' ∈ outside

theorem Nested.exists_last_dot {s outside : List Char} (h : Nested s outside) (hdot : '.' ∈ outside) :
    ∃ u t, s = u ++ '.' :: t ∧ WellNested u ∧ IsSegment t := by
  induction h with
  | nil => cases hdot
  | @plain c s outside hc hs ih =>
    -- The last dot lies further on, or this character is it.
    by_cases hrest : '.' ∈ outside
    · obtain ⟨u, t, rfl, ⟨o, hu⟩, ht⟩ := ih hrest
      exact ⟨c :: u, t, rfl, ⟨c :: o, .plain hc hu⟩, ht⟩
    · obtain rfl : '.' = c := by simpa [hrest] using hdot
      exact ⟨[], s, rfl, ⟨[], .nil⟩, ⟨outside, hs, hrest⟩⟩
  | group b hi hs _ ih =>
    obtain ⟨u, t, rfl, ⟨o, hu⟩, ht⟩ := ih hdot
    exact ⟨_, t, by simp, ⟨o, .group b hi hu⟩, ht⟩

namespace Bracket

def opened? (c : Char) : Option Bracket := all.find? (·.opening == c)

def closed? (c : Char) : Option Bracket := all.find? (·.closing == c)

theorem mem_all (b : Bracket) : b ∈ all := by cases b <;> decide

@[simp] theorem opened?_opening (b : Bracket) : opened? b.opening = some b := by cases b <;> rfl

@[simp] theorem opened?_closing (b : Bracket) : opened? b.closing = none := by cases b <;> rfl

@[simp] theorem closed?_closing (b : Bracket) : closed? b.closing = some b := by cases b <;> rfl

theorem opening_of_opened? {b : Bracket} {c : Char} (h : opened? c = some b) : b.opening = c := by
  simpa using List.find?_some h

theorem closing_of_closed? {b : Bracket} {c : Char} (h : closed? c = some b) : b.closing = c := by
  simpa using List.find?_some h

end Bracket

theorem isPlain_iff {c : Char} : IsPlain c ↔ Bracket.opened? c = none ∧ Bracket.closed? c = none := by
  simp only [IsPlain, Bracket.opened?, Bracket.closed?, List.find?_eq_none, beq_iff_eq,
    Bracket.mem_all, true_imp_iff, ← forall_and, eq_comm (a := c), ne_eq]

/-- What a forward parser keeps: the open groups, the innermost first, and the text behind the last dot
outside all groups. -/
structure Reading where
  stack : List Bracket
  segment : List Char

namespace Reading

def start : Reading := ⟨[], []⟩

def next? (r : Reading) (c : Char) : Option Reading :=
  match Bracket.opened? c, Bracket.closed? c, r.stack with
  | some b, _, stack => some ⟨b :: stack, r.segment ++ [c]⟩
  | none, some b, innermost :: stack =>
    if b = innermost then some ⟨stack, r.segment ++ [c]⟩ else none
  | none, some _, [] => none
  | none, none, stack => some ⟨stack, if c = '.' ∧ stack = [] then [] else r.segment ++ [c]⟩

def read? (r : Reading) (s : List Char) : Option Reading := s.foldlM next? r

variable {stack : List Bracket} {segment s t outside : List Char}

theorem next?_opening (b : Bracket) :
    next? ⟨stack, segment⟩ b.opening = some ⟨b :: stack, segment ++ [b.opening]⟩ := by
  simp [next?]

theorem next?_closing (b : Bracket) :
    next? ⟨b :: stack, segment⟩ b.closing = some ⟨stack, segment ++ [b.closing]⟩ := by
  simp [next?]

theorem next?_plain {c : Char} (hc : IsPlain c) : next? ⟨stack, segment⟩ c =
    some ⟨stack, if c = '.' ∧ stack = [] then [] else segment ++ [c]⟩ := by
  simp [next?, isPlain_iff.mp hc]

@[simp] theorem read?_nil (r : Reading) : r.read? [] = some r := rfl

@[simp] theorem read?_cons (r : Reading) (c : Char) :
    r.read? (c :: s) = (r.next? c).bind fun r => r.read? s := by
  simp [read?]

theorem read?_append (r : Reading) : r.read? (s ++ t) = (r.read? s).bind fun r => r.read? t := by
  simp [read?, List.foldlM_append]

theorem read?_nested (h : Nested s outside) (hdot : stack = [] → '.' ∉ outside) :
    read? ⟨stack, segment⟩ s = some ⟨stack, segment ++ s⟩ := by
  induction h generalizing stack segment with
  | nil => simp
  | @plain c s outside hc _ ih =>
    -- A dot counts outside all groups only, and there is none there.
    have hnot : ¬ (c = '.' ∧ stack = []) := fun ⟨hc, hs⟩ => hdot hs (by simp [hc])
    rw [read?_cons, next?_plain hc, if_neg hnot, Option.bind_some,
      ih fun hs => fun hmem => hdot hs (List.mem_cons_of_mem _ hmem)]
    simp
  | group b _ _ ihi ihs =>
    rw [read?_cons, next?_opening, Option.bind_some, read?_append, ihi (by simp), Option.bind_some,
      read?_cons, next?_closing, Option.bind_some, ihs hdot]
    simp

theorem exists_read?_wellNested (segment : List Char) (h : Nested s outside) :
    ∃ found, read? ⟨[], segment⟩ s = some ⟨[], found⟩ := by
  induction h generalizing segment with
  | nil => exact ⟨segment, rfl⟩
  | plain hc _ ih =>
    rw [read?_cons, next?_plain hc]
    exact ih _
  | group b hi _ _ ih =>
    rw [read?_cons, next?_opening, Option.bind_some, read?_append, read?_nested hi (by simp),
      Option.bind_some, read?_cons, next?_closing]
    exact ih _

/-- A text that closes the groups of a stack in order, and is well-nested apart from that. -/
def Closes : List Bracket → List Char → Prop
  | [], s => WellNested s
  | b :: stack, s => ∃ inside rest, s = inside ++ b.closing :: rest ∧ WellNested inside ∧ Closes stack rest

theorem Closes.plain {c : Char} (hc : IsPlain c) (h : Closes stack s) : Closes stack (c :: s) := by
  cases stack with
  | nil =>
    obtain ⟨outside, hs⟩ := h
    exact ⟨c :: outside, .plain hc hs⟩
  | cons b stack =>
    obtain ⟨inside, rest, rfl, ⟨outside, hi⟩, hrest⟩ := h
    exact ⟨c :: inside, rest, rfl, ⟨c :: outside, .plain hc hi⟩, hrest⟩

theorem Closes.group {b : Bracket} (h : Closes (b :: stack) s) : Closes stack (b.opening :: s) := by
  obtain ⟨inside, rest, rfl, ⟨hidden, hi⟩, hrest⟩ := h
  cases stack with
  | nil =>
    obtain ⟨outside, hs⟩ := hrest
    exact ⟨outside, .group b hi hs⟩
  | cons b' stack =>
    obtain ⟨inside', rest, rfl, ⟨outside, hs⟩, hrest⟩ := hrest
    exact ⟨_, rest, by simp, ⟨outside, .group b hi hs⟩, hrest⟩

theorem closes_of_read? {r : Reading} {found : List Char} (h : r.read? s = some ⟨[], found⟩) :
    Closes r.stack s := by
  induction s generalizing r with
  | nil =>
    obtain rfl : r = ⟨[], found⟩ := by simpa using h
    exact ⟨[], .nil⟩
  | cons c s ih =>
    rw [read?_cons, Option.bind_eq_some_iff] at h
    obtain ⟨r', hnext, hread⟩ := h
    have hrest := ih hread
    unfold next? at hnext
    split at hnext
    · rename_i hopen
      cases hnext
      exact Bracket.opening_of_opened? hopen ▸ hrest.group
    · rename_i b innermost stack _ hclose hstack
      split at hnext
      · rename_i hb
        cases hnext
        rw [hstack, ← hb]
        exact ⟨[], s, by simp [Bracket.closing_of_closed? hclose], ⟨[], .nil⟩, hrest⟩
      · cases hnext
    · cases hnext
    · rename_i hopen hclose
      cases hnext
      exact hrest.plain (isPlain_iff.mpr ⟨hopen, hclose⟩)

end Reading

/-- The text behind the last dot outside all groups, and the whole text where there is none; `none` for
a text that is not well-nested. -/
def lastSegment? (s : List Char) : Option (List Char) :=
  match Reading.start.read? s with
  | some ⟨[], segment⟩ => some segment
  | _ => none

theorem IsSegment.lastSegment? {t : List Char} (h : IsSegment t) : lastSegment? t = some t := by
  obtain ⟨outside, ht, hdot⟩ := h
  simp [Signature.lastSegment?, Reading.start, Reading.read?_nested ht fun _ => hdot]

theorem lastSegment?_append {u t : List Char} (hu : WellNested u) (ht : IsSegment t) :
    lastSegment? (u ++ '.' :: t) = some t := by
  obtain ⟨_, hu⟩ := hu
  obtain ⟨outside, ht, hdot⟩ := ht
  obtain ⟨found, hfound⟩ := Reading.exists_read?_wellNested [] hu
  have hplain : IsPlain '.' := isPlain_iff.mpr ⟨rfl, rfl⟩
  simp [lastSegment?, Reading.start, Reading.read?_append, hfound, Reading.next?_plain hplain,
    Reading.read?_nested ht fun _ => hdot]

theorem WellNested.cases_last_dot {s : List Char} (h : WellNested s) :
    IsSegment s ∨ ∃ u t, s = u ++ '.' :: t ∧ WellNested u ∧ IsSegment t := by
  obtain ⟨outside, hs⟩ := h
  by_cases hdot : '.' ∈ outside
  · exact .inr (hs.exists_last_dot hdot)
  · exact .inl ⟨outside, hs, hdot⟩

theorem lastSegment?_isSome_iff {s : List Char} : (lastSegment? s).isSome ↔ WellNested s := by
  constructor
  · intro h
    unfold lastSegment? at h
    split at h
    · rename_i hread
      exact Reading.closes_of_read? hread
    · cases h
  · intro h
    rcases h.cases_last_dot with hs | ⟨u, t, rfl, hu, ht⟩
    · simp [hs.lastSegment?]
    · simp [lastSegment?_append hu ht]

theorem lastSegment?_ne_whole {u t : List Char} (hu : WellNested u) (ht : IsSegment t) :
    lastSegment? (u ++ '.' :: t) ≠ some (u ++ '.' :: t) := by
  intro h
  -- The parser finds `t`, which is shorter than the text.
  rw [lastSegment?_append hu ht] at h
  have := congrArg List.length (Option.some.inj h)
  simp only [List.length_append, List.length_cons] at this
  omega

theorem isSegment_iff {s : List Char} : IsSegment s ↔ lastSegment? s = some s := by
  refine ⟨IsSegment.lastSegment?, fun h => ?_⟩
  have hs : WellNested s := lastSegment?_isSome_iff.mp (by simp [h])
  rcases hs.cases_last_dot with hs | ⟨u, t, rfl, hu, ht⟩
  · exact hs
  · exact absurd h (lastSegment?_ne_whole hu ht)

theorem hasOuterDot_iff {s : List Char} : HasOuterDot s ↔ WellNested s ∧ ¬ IsSegment s := by
  constructor
  · rintro ⟨outside, hs, hdot⟩
    refine ⟨⟨outside, hs⟩, fun hsegment => ?_⟩
    obtain ⟨u, t, rfl, hu, ht⟩ := hs.exists_last_dot hdot
    exact lastSegment?_ne_whole hu ht hsegment.lastSegment?
  · rintro ⟨⟨outside, hs⟩, hsegment⟩
    refine ⟨outside, hs, ?_⟩
    by_contra hdot
    exact hsegment ⟨outside, hs, hdot⟩

instance : DecidablePred WellNested := fun _ => decidable_of_iff _ lastSegment?_isSome_iff

instance : DecidablePred IsSegment := fun _ => decidable_of_iff _ isSegment_iff.symm

instance : DecidablePred HasOuterDot := fun _ => decidable_of_iff _ hasOuterDot_iff.symm

end TagTooltips.Signature
