import TagTooltips.Proofs.Documentation.Marker
import TagTooltips.Proofs.Text.Lines

/-! Every text falls into gaps and markers in one way. Replacing the markers in place, the last one
first, puts the same text together as one pass from the left over gaps and markers would. -/

namespace TagTooltips.Documentation

/-- A text taken apart: gaps and markers in turn, with a gap at either end. -/
inductive Parts
  | last (gap : List Char)
  | cons (gap : List Char) (m : Marker) (rest : Parts)

namespace Parts

def text : Parts → List Char
  | last gap => gap
  | cons gap m rest => gap ++ (m.text ++ rest.text)

def replaced (shown : List Char → List Char) : Parts → List Char
  | last gap => gap
  | cons gap m rest => gap ++ (shown m.value ++ rest.replaced shown)

/-- No marker begins inside a gap that stands before `behind`. -/
def Bare (gap behind : List Char) : Prop :=
  ∀ before inside, gap = before ++ inside → inside ≠ [] → ∀ m : Marker, ¬ m.text <+: inside ++ behind

def Exact : Parts → Prop
  | last gap => Bare gap []
  | cons gap m rest => Bare gap (m.text ++ rest.text) ∧ rest.Exact

def spans (passed : Nat) : Parts → List Occurrence
  | last _ => []
  | cons gap m rest =>
    let start := passed + gap.length
    ⟨start, start + m.text.length, m.value⟩ :: rest.spans (start + m.text.length)

def push (c : Char) : Parts → Parts
  | last gap => last (c :: gap)
  | cons gap m rest => cons (c :: gap) m rest

variable {c : Char} {gap behind : List Char} {p q : Parts}

theorem bare_nil : Bare [] behind := by
  intro before inside h hne
  exact absurd (List.append_eq_nil_iff.mp h.symm).2 hne

theorem Bare.cons (hc : ∀ m : Marker, ¬ m.text <+: c :: (gap ++ behind)) (h : Bare gap behind) :
    Bare (c :: gap) behind := by
  intro before inside hsplit hne
  cases before with
  | nil =>
    obtain rfl : c :: gap = inside := hsplit
    exact hc
  | cons _ before => exact h before inside (List.cons.inj hsplit).2 hne

@[simp] theorem text_push : (p.push c).text = c :: p.text := by cases p <;> rfl

theorem spans_push (passed : Nat) : (p.push c).spans passed = p.spans (passed + 1) := by
  cases p with
  | last gap => rfl
  | cons gap m rest => simp only [push, spans, List.length_cons, Nat.add_right_comm, Nat.add_assoc]

theorem Exact.push (hc : ∀ m : Marker, ¬ m.text <+: c :: p.text) (h : p.Exact) :
    (p.push c).Exact := by
  cases p with
  | last gap => exact Bare.cons (by simpa [text] using hc) h
  | cons gap m rest => exact ⟨h.1.cons hc, h.2⟩

theorem Bare.length_le {gap' behind' : List Char} (m : Marker) (h : Bare gap' behind')
    (htext : gap ++ (m.text ++ behind) = gap' ++ behind') : gap'.length ≤ gap.length := by
  rcases List.append_eq_append_iff.mp htext with ⟨inside, hgap, hrest⟩ | ⟨more, hgap, -⟩
  · -- If the other gap were longer, the marker would begin inside it.
    by_cases hne : inside = []
    · simp [hgap, hne]
    · exact absurd ⟨behind, hrest⟩ (h gap inside hgap hne m)
  · simp [hgap]

theorem Exact.unique (hp : p.Exact) (hq : q.Exact) (htext : p.text = q.text) : p = q := by
  induction p generalizing q with
  | last gap =>
    cases q with
    | last gap' => rw [show gap = gap' from htext]
    | cons gap' m' rest' =>
      have hle : gap.length ≤ gap'.length := hp.length_le m' (by simpa [text] using htext.symm)
      have hlen := congrArg List.length htext
      have hpos := List.length_pos_of_ne_nil m'.text_ne_nil
      simp only [text, List.length_append] at hlen
      omega
  | cons gap m rest ih =>
    cases q with
    | last gap' =>
      have hle : gap'.length ≤ gap.length := hq.length_le m (by simpa [text] using htext)
      have hlen := congrArg List.length htext
      have hpos := List.length_pos_of_ne_nil m.text_ne_nil
      simp only [text, List.length_append] at hlen
      omega
    | cons gap' m' rest' =>
      have hgaps : gap = gap' ∧ m.text ++ rest.text = m'.text ++ rest'.text :=
        List.append_inj htext (Nat.le_antisymm (hp.1.length_le m' htext.symm) (hq.1.length_le m htext))
      obtain ⟨rfl, hrest⟩ := Marker.text_append_inj hgaps.2
      rw [hgaps.1, ih hp.2 hq.2 hrest]

end Parts

theorem marker?_eq_none_iff {s : List Char} :
    marker? s = none ↔ ∀ m : Marker, ¬ m.text <+: s := by
  constructor
  · rintro hnone m ⟨r, rfl⟩
    rw [marker?_eq_some_iff.mpr ⟨m, rfl, rfl⟩] at hnone
    cases hnone
  · intro h
    cases hfound : marker? s with
    | none => rfl
    | some found =>
      obtain ⟨m, -, hs⟩ := marker?_eq_some_iff.mp hfound
      exact absurd ⟨found.2, hs.symm⟩ (h m)

theorem exists_exact_parts (passed : Nat) (s : List Char) :
    ∃ p : Parts, p.text = s ∧ p.Exact ∧ p.spans passed = occurrences passed s := by
  fun_induction occurrences passed s with
  | case1 => exact ⟨.last [], rfl, Parts.bare_nil, rfl⟩
  | case2 passed c cs value rest hmarker stop ih =>
    obtain ⟨m, rfl, hs⟩ := marker?_eq_some_iff.mp hmarker
    obtain ⟨p, rfl, hexact, hspans⟩ := ih
    have hstop : stop = passed + m.text.length := by
      simp only [stop, hs, List.length_append, Nat.add_sub_cancel]
    refine ⟨.cons [] m p, hs.symm, ⟨Parts.bare_nil, hexact⟩, ?_⟩
    rw [← hspans, hstop]
    rfl
  | case3 passed c cs hmarker ih =>
    obtain ⟨p, rfl, hexact, hspans⟩ := ih
    refine ⟨p.push c, Parts.text_push, hexact.push (marker?_eq_none_iff.mp hmarker), ?_⟩
    rw [Parts.spans_push, hspans]

theorem replaceRange_append (a b r new : List Char) :
    replaceRange a.length (a.length + b.length) new (a ++ (b ++ r)) = a ++ (new ++ r) := by
  rw [replaceRange, List.take_left, ← List.append_assoc a b r, ← List.length_append, List.drop_left,
    List.append_assoc]

theorem value_replaceMarkers_cons (shown : List Char → Noted (List Char)) (o : Occurrence)
    (found : List Occurrence) (s : List Char) :
    (replaceMarkers shown (o :: found) s).value =
      replaceRange o.start o.stop (shown o.value).value (replaceMarkers shown found s).value := by
  simp [replaceMarkers]

/-- Replacing in place from the last marker to the first is the same as one pass from the left,
whatever the lengths of what is shown. -/
theorem value_replaceMarkers_spans (shown : List Char → Noted (List Char)) (p : Parts)
    (before : List Char) :
    (replaceMarkers shown (p.spans before.length) (before ++ p.text)).value =
      before ++ p.replaced fun value => (shown value).value := by
  induction p generalizing before with
  | last gap => rfl
  | cons gap m rest ih =>
    -- The markers behind this one are replaced already, and where this one stands has not changed.
    have hrest := ih (before ++ (gap ++ m.text))
    have hlen : before.length + gap.length + m.text.length = (before ++ (gap ++ m.text)).length := by
      simp only [List.length_append, Nat.add_assoc]
    have htext : before ++ (Parts.cons gap m rest).text = before ++ (gap ++ m.text) ++ rest.text := by
      simp only [Parts.text, List.append_assoc]
    rw [Parts.spans, value_replaceMarkers_cons, htext]
    simp only [hlen]
    rw [hrest, Parts.replaced]
    have hreplace := replaceRange_append (before ++ gap) m.text
      (rest.replaced fun value => (shown value).value) (shown m.value).value
    simpa only [List.length_append, List.append_assoc, Nat.add_assoc] using hreplace

/-- Two markers that begin at one place in a text are one marker. The text falls into gaps and markers
in one way, with no marker left in a gap. Replacing the markers in place gives the gaps and what is shown
for the markers, in their order; for a summary each of its lines is trimmed besides. -/
theorem markdown_eq_replaced_parts (s : List Char) :
    (∀ (start : Nat) (m m' : Marker), m.text <+: s.drop start → m'.text <+: s.drop start → m = m') ∧
    ∃ p : Parts, (p.text = s ∧ p.Exact) ∧ (∀ q : Parts, q.text = s ∧ q.Exact → q = p) ∧
      (∀ shown : List Char → Noted (List Char), (replaceMarkers shown (occurrences 0 s) s).value =
        p.replaced fun value => (shown value).value) ∧
      (markdown s).value.splitOn '\n' =
        ((p.replaced fun value => (renderReference value).value).splitOn '\n').map Text.trim := by
  refine ⟨fun start m m' hm hm' => ?_, ?_⟩
  · obtain ⟨r, hr⟩ := hm
    obtain ⟨r', hr'⟩ := hm'
    exact (Marker.text_append_inj (hr.trans hr'.symm)).1
  · obtain ⟨p, rfl, hexact, hspans⟩ := exists_exact_parts 0 s
    have hreplaced (shown : List Char → Noted (List Char)) :
        (replaceMarkers shown (occurrences 0 p.text) p.text).value =
          p.replaced fun value => (shown value).value := by
      rw [← hspans]
      exact value_replaceMarkers_spans shown p []
    refine ⟨p, ⟨rfl, hexact⟩, fun q hq => hq.2.unique hexact hq.1, hreplaced, ?_⟩
    rw [markdown, Noted.value_bind, Noted.value_pure, Text.splitOn_trimLines, hreplaced]

end TagTooltips.Documentation
