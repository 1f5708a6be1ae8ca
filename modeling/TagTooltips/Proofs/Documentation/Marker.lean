import TagTooltips.Documentation.Reference
import TagTooltips.Proofs.Text.Span

/-! Cross-reference markers as texts. What a marker is made of can be read off it in one way only, and
the scanner finds a marker at the front of a text exactly when the text begins with one. -/

namespace TagTooltips.Documentation

section Scan

variable {p : Char → Bool} {x : Char} {a r s literal : List Char}

theorem dropLiteral?_append : dropLiteral? literal (literal ++ r) = some r := by
  rw [dropLiteral?, if_pos (List.isPrefixOf_iff_prefix.mpr (List.prefix_append literal r)),
    List.drop_left]

theorem dropLiteral?_eq_some_iff : dropLiteral? literal s = some r ↔ s = literal ++ r := by
  refine ⟨fun h => ?_, fun h => h ▸ dropLiteral?_append⟩
  unfold dropLiteral? at h
  split at h
  · rename_i hp
    obtain ⟨t, rfl⟩ := List.isPrefixOf_iff_prefix.mp hp
    rw [List.drop_left] at h
    rw [Option.some.inj h]
  · cases h

theorem dropSome?_append_cons (ha : ∀ c ∈ a, p c) (hne : a ≠ []) (hx : p x = false) :
    dropSome? p (a ++ x :: r) = some (a, x :: r) := by
  simp [dropSome?, takeWhile_append_cons ha hx, dropWhile_append_cons ha hx, hne]

theorem dropSome?_of_neg (hx : p x = false) : dropSome? p (x :: r) = none := by
  simp [dropSome?, hx]

theorem of_dropSome? (h : dropSome? p s = some (a, r)) :
    s = a ++ r ∧ a ≠ [] ∧ ∀ c ∈ a, p c := by
  unfold dropSome? at h
  split at h
  · cases h
  · rename_i hne
    cases h
    exact ⟨List.takeWhile_append_dropWhile.symm, by simpa using hne, fun c hc =>
      List.mem_takeWhile_imp hc⟩

end Scan

/-- A marker, piece by piece: its name, white space, its value in quotes, and anything up to the
bracket that ends it. -/
@[ext] structure Marker where
  also : Bool
  blank : List Char
  value : List Char
  tail : List Char
  blank_ne : blank ≠ []
  blank_white : ∀ c ∈ blank, Text.isWhiteSpace c
  value_ne : value ≠ []
  value_chars : ∀ c ∈ value, c ≠ '\x22' ∧ c ≠ '>'
  tail_chars : ∀ c ∈ tail, c ≠ '>'

namespace Marker

def name (m : Marker) : List Char := if m.also then "<seealso".toList else "<see".toList

def body (m : Marker) : List Char :=
  m.blank ++ ("cref=\x22".toList ++ (m.value ++ '\x22' :: (m.tail ++ ['>'])))

def text (m : Marker) : List Char := m.name ++ m.body

variable (m : Marker)

theorem isValueChar_of_mem : ∀ c ∈ m.value, isValueChar c := by
  intro c hc
  simp [isValueChar, m.value_chars c hc]

theorem exists_body_eq_cons : ∃ c rest, m.body = c :: rest ∧ Text.isWhiteSpace c := by
  obtain ⟨c, rest, hblank⟩ := List.exists_cons_of_ne_nil m.blank_ne
  exact ⟨c, _, by rw [body, hblank, List.cons_append], m.blank_white c (by simp [hblank])⟩

theorem body_append (r : List Char) : m.body ++ r =
    m.blank ++ 'c' :: ("ref=\x22".toList ++ (m.value ++ '\x22' :: (m.tail ++ '>' :: r))) := by
  simp [body]

def ending : List Char := if m.also then "also".toList else []

theorem text_append (r : List Char) : m.text ++ r = "<see".toList ++ (m.ending ++ (m.body ++ r)) := by
  cases hm : m.also <;> simp [text, name, ending, hm]

theorem text_ne_nil : m.text ≠ [] := by
  cases hm : m.also <;> simp [text, name, hm]

section Inj

variable {m m' : Marker} {r r' : List Char}

theorem also_eq_of_text_append_eq (h : m.text ++ r = m'.text ++ r') : m.also = m'.also := by
  obtain ⟨c, rest, hbody, hc⟩ := m.exists_body_eq_cons
  obtain ⟨c', rest', hbody', hc'⟩ := m'.exists_body_eq_cons
  rw [text_append, text_append, hbody, hbody'] at h
  have h := List.append_cancel_left h
  -- Behind `<see` one text would go on with white space and the other with a letter.
  have hletter : Text.isWhiteSpace 'a' = false := by decide
  cases hm : m.also <;> cases hm' : m'.also
  · rfl
  · rw [ending, ending, hm, hm'] at h
    obtain rfl : c = 'a' := (List.cons.inj h).1
    simp [hletter] at hc
  · rw [ending, ending, hm, hm'] at h
    obtain rfl : 'a' = c' := (List.cons.inj h).1
    simp [hletter] at hc'
  · rfl

/-- Each piece runs on to the first character that may not stand in it, so that the pieces can be told. -/
theorem text_append_inj (h : m.text ++ r = m'.text ++ r') : m = m' ∧ r = r' := by
  have hnames := also_eq_of_text_append_eq h
  have hbodies : m.body ++ r = m'.body ++ r' := by
    rw [text, text, name, name, hnames, List.append_assoc, List.append_assoc] at h
    exact List.append_cancel_left h
  rw [body_append, body_append] at hbodies
  obtain ⟨hblank, hrest⟩ := append_cons_inj m.blank_white m'.blank_white (by decide) (by decide) hbodies
  have hvalues := List.append_cancel_left (List.cons.inj hrest).2
  obtain ⟨hvalue, hrest⟩ :=
    append_cons_inj m.isValueChar_of_mem m'.isValueChar_of_mem (by decide) (by decide) hvalues
  have htails := (List.cons.inj hrest).2
  obtain ⟨htail, hrest⟩ := append_cons_inj (p := (· != '>')) (by simpa using m.tail_chars)
    (by simpa using m'.tail_chars) (by decide) (by decide) htails
  exact ⟨Marker.ext hnames hblank hvalue htail, (List.cons.inj hrest).2⟩

end Inj

end Marker

theorem markerBody?_body (m : Marker) (r : List Char) :
    markerBody? (m.body ++ r) = some (m.value, r) := by
  have htail : ∀ c ∈ m.tail, (c != '>') = true := by simpa using m.tail_chars
  have hcref (t : List Char) : dropLiteral? "cref=\x22".toList ('c' :: ("ref=\x22".toList ++ t)) = some t :=
    dropLiteral?_append
  have hquote (t : List Char) : dropLiteral? ['\x22'] ('\x22' :: t) = some t := dropLiteral?_append
  have hend : dropLiteral? ['>'] ('>' :: r) = some r := dropLiteral?_append
  rw [Marker.body_append, markerBody?, dropSome?_append_cons m.blank_white m.blank_ne (by decide)]
  simp only [Option.bind_eq_bind, Option.bind_some, hcref,
    dropSome?_append_cons m.isValueChar_of_mem m.value_ne (show isValueChar '\x22' = false by decide),
    hquote, dropWhile_append_cons htail (show ('>' != '>') = false by decide), hend, Option.pure_def]

theorem exists_marker_of_markerBody? (also : Bool) {s value r : List Char}
    (h : markerBody? s = some (value, r)) :
    ∃ m : Marker, m.also = also ∧ m.value = value ∧ s = m.body ++ r := by
  simp only [markerBody?, Option.bind_eq_bind, Option.pure_def, Option.bind_eq_some_iff,
    Option.some.injEq, Prod.mk.injEq, Prod.exists, dropLiteral?_eq_some_iff] at h
  obtain ⟨blank, _, h₁, _, rfl, found, _, h₃, tail, rfl, _, h₅, rfl, rfl⟩ := h
  obtain ⟨rfl, hblank, hwhite⟩ := of_dropSome? h₁
  obtain ⟨rfl, hne, hvalue⟩ := of_dropSome? h₃
  refine ⟨⟨also, blank, found, tail.takeWhile (· != '>'), hblank, hwhite, hne, fun c hc => ?_,
    fun c hc => by simpa using List.mem_takeWhile_imp hc⟩, rfl, rfl, ?_⟩
  · simpa [isValueChar] using hvalue c hc
  · have htail := List.takeWhile_append_dropWhile (p := (· != '>')) (l := tail)
    rw [h₅, List.singleton_append] at htail
    simp only [Marker.body, List.append_assoc, List.cons_append, List.nil_append, htail]

theorem marker?_eq_some_iff {s value r : List Char} :
    marker? s = some (value, r) ↔ ∃ m : Marker, m.value = value ∧ s = m.text ++ r := by
  constructor
  · intro h
    simp only [marker?, Option.bind_eq_bind, Option.bind_eq_some_iff, Option.or_eq_some_iff,
      dropLiteral?_eq_some_iff] at h
    rcases h with ⟨_, rfl, h | ⟨_, _, rfl, h⟩⟩
    · obtain ⟨m, halso, hvalue, rfl⟩ := exists_marker_of_markerBody? false h
      exact ⟨m, hvalue, by simp [Marker.text, Marker.name, halso]⟩
    · obtain ⟨m, halso, hvalue, rfl⟩ := exists_marker_of_markerBody? true h
      exact ⟨m, hvalue, by simp [Marker.text, Marker.name, halso]⟩
  · rintro ⟨m, rfl, rfl⟩
    -- The scanner tries the shorter name first, and fails on the letter behind it.
    have hletter (t : List Char) : markerBody? ("also".toList ++ t) = none := by
      change markerBody? ('a' :: ("lso".toList ++ t)) = none
      rw [markerBody?, dropSome?_of_neg (by decide)]
      rfl
    rw [m.text_append, marker?, dropLiteral?_append, Option.bind_eq_bind, Option.bind_some, Marker.ending]
    cases m.also
    · rw [if_neg Bool.false_ne_true, List.nil_append, markerBody?_body, Option.some_or]
    · rw [if_pos rfl, hletter, Option.none_or, dropLiteral?_append, Option.bind_some, markerBody?_body]

end TagTooltips.Documentation
