import TagTooltips.Proofs.Candidate.Completion
import TagTooltips.Proofs.Document.Context
import TagTooltips.Proofs.Text.Measure
import TagTooltips.Server.Feature

/-! The tag of a cursor, found in two ways. What may be completed is read off the text before the cursor;
the name under a cursor is put together from both sides of it. Wherever the first finds a tag, the
second finds the same one at every place on its name. -/

namespace TagTooltips.Document

open Text

variable {d : Document} {p : Position} {front opening name behind rest s t : List Char} {tag : String} {c : Nat}

section Split

theorem split?_eq_some_iff : d.split? p = some (s, behind) ↔
    d.lines[p.line]? = some (s ++ behind) ∧ covering utf16Size p.character (s ++ behind) = s := by
  constructor
  · intro h
    obtain ⟨line, hline, hparts⟩ := Option.bind_eq_some_iff.mp h
    obtain ⟨rfl, rfl⟩ := Prod.mk.inj (Option.some.inj hparts)
    have hkept : covering utf16Size p.character line <+: line := covering_prefix _ line
    have hcut := List.prefix_iff_eq_append.mp hkept
    exact ⟨by rw [hline, hcut], by rw [hcut]⟩
  · rintro ⟨hline, hcover⟩
    simp [split?, hline, hcover]

theorem split?_of_before? (h : d.before? p = some s) (hline : d.lines[p.line]? = some (s ++ behind)) :
    d.split? p = some (s, behind) := by
  refine split?_eq_some_iff.mpr ⟨hline, ?_⟩
  simpa [before?, split?, hline] using h

theorem exists_split?_between {line : Nat} (hline : d.lines[line]? = some (front ++ name ++ rest))
    (hle : utf16Length front ≤ c) (hge : c ≤ utf16Length (front ++ name)) :
    ∃ before behind, name = before ++ behind ∧
      d.split? ⟨line, c⟩ = some (front ++ before, behind ++ rest) := by
  obtain ⟨before, behind, rfl, hcover⟩ := exists_covering_eq_append utf16Size_pos rest hle hge
  have hsplit : front ++ (before ++ behind) ++ rest = (front ++ before) ++ (behind ++ rest) := by
    simp only [List.append_assoc]
  rw [hsplit] at hline hcover
  exact ⟨before, behind, rfl, split?_eq_some_iff.mpr ⟨hline, hcover⟩⟩

theorem exists_line_of_before? (h : d.before? p = some s) :
    ∃ behind, d.lines[p.line]? = some (s ++ behind) := by
  obtain ⟨⟨before, behind⟩, hsplit, rfl⟩ := Option.map_eq_some_iff.mp h
  exact ⟨behind, (split?_eq_some_iff.mp hsplit).1⟩

end Split

def IsOpening (s : List Char) : Prop := s = ['<'] ∨ s = ['<', '/']

theorem IsOpening.stops (hopening : IsOpening opening) (front : List Char) :
    ∀ x r, (front ++ opening).reverse = x :: r → isNameChar x = false := by
  intro x r hlast
  rw [List.reverse_append] at hlast
  rcases hopening with rfl | rfl
  · exact (List.cons.inj hlast).1 ▸ (by decide)
  · exact (List.cons.inj hlast).1 ▸ (by decide)

theorem tagName?_of_opening (hopening : IsOpening opening)
    (hsplit : d.split? p = some (front ++ opening ++ name, behind)) (hname : ∀ c ∈ name, isNameChar c)
    (hbehind : behind ≠ []) (hne : name ++ behind.takeWhile isNameChar ≠ []) :
    d.tagName? p = some (String.ofList (name ++ behind.takeWhile isNameChar)) := by
  have hname' : ∀ c ∈ name.reverse, isNameChar c := fun c hc => hname c (List.mem_reverse.mp hc)
  have hreverse : (front ++ opening ++ name).reverse = name.reverse ++ (front ++ opening).reverse :=
    List.reverse_append
  have hleft := takeWhile_append_stop hname' (hopening.stops front)
  have hbefore := dropWhile_append_stop hname' (hopening.stops front)
  simp only [tagName?, hsplit, Option.bind_eq_bind, Option.bind_some, hreverse, hleft, hbefore,
    List.reverse_reverse, List.isEmpty_iff, if_neg hbehind, if_neg hne]
  rcases hopening with rfl | rfl <;> simp

theorem exists_opening_of_tagName? (h : d.tagName? p = some tag) : ∃ front opening name behind,
    IsOpening opening ∧ d.split? p = some (front ++ opening ++ name, behind) ∧ (∀ c ∈ name, isNameChar c) ∧
      behind ≠ [] ∧ name ++ behind.takeWhile isNameChar ≠ [] ∧
      String.ofList (name ++ behind.takeWhile isNameChar) = tag := by
  obtain ⟨⟨before, behind⟩, hsplit, hname⟩ := Option.bind_eq_some_iff.mp h
  dsimp only at hname
  by_cases hbehind : behind.isEmpty
  · rw [if_pos hbehind] at hname
    cases hname
  rw [if_neg hbehind] at hname
  by_cases hempty : ((before.reverse.takeWhile isNameChar).reverse ++ behind.takeWhile isNameChar).isEmpty
  · rw [if_pos hempty] at hname
    cases hname
  rw [if_neg hempty] at hname
  -- What is before the name was read backwards, and so the slash came before the bracket.
  obtain ⟨front, opening, hopening, hfront, htag⟩ : ∃ front opening, IsOpening opening ∧
      before.reverse.dropWhile isNameChar = (front ++ opening).reverse ∧
      String.ofList ((before.reverse.takeWhile isNameChar).reverse ++ behind.takeWhile isNameChar) = tag := by
    split at hname
    · rename_i more hmore
      exact ⟨more.reverse, ['<'], .inl rfl, by simpa using hmore, Option.some.inj hname⟩
    · rename_i more hmore
      exact ⟨more.reverse, ['<', '/'], .inr rfl, by simpa using hmore, Option.some.inj hname⟩
    · cases hname
  have hbefore : before = front ++ opening ++ (before.reverse.takeWhile isNameChar).reverse := by
    rw [← List.reverse_inj, List.reverse_append, ← hfront, List.reverse_reverse, List.takeWhile_append_dropWhile]
  refine ⟨front, opening, _, behind, hopening, hsplit.trans ?_, ?_, mt List.isEmpty_iff.mpr hbehind,
    mt List.isEmpty_iff.mpr hempty, htag⟩
  · rw [← hbefore]
  · exact fun c hc => List.mem_takeWhile_imp (List.mem_reverse.mp hc)

theorem tagName?_of_split? (hsplit : d.split? p = some (front ++ '<' :: name, behind))
    (hname : ∀ c ∈ name, isNameChar c) (hbehind : behind ≠ [])
    (hne : name ++ behind.takeWhile isNameChar ≠ []) :
    d.tagName? p = some (String.ofList (name ++ behind.takeWhile isNameChar)) := by
  rw [List.append_cons front] at hsplit
  exact tagName?_of_opening (.inl rfl) hsplit hname hbehind hne

theorem tagName?_of_whole (hopening : IsOpening opening)
    (hsplit : d.split? p = some (front ++ opening ++ name, behind ++ rest)) (hbehind : behind ++ rest ≠ [])
    (hname : ∀ c ∈ name ++ behind, isNameChar c) (hne : name ++ behind ≠ [])
    (hstop : ∀ x r, rest = x :: r → isNameChar x = false) :
    d.tagName? p = some (String.ofList (name ++ behind)) := by
  obtain ⟨hleft, hright⟩ := List.forall_mem_append.mp hname
  have hrest : (behind ++ rest).takeWhile isNameChar = behind := takeWhile_append_stop hright hstop
  rw [tagName?_of_opening hopening hsplit hleft hbehind (by rwa [hrest]), hrest]

theorem tagName?_between {line : Nat} {x : Char}
    (hline : d.lines[line]? = some (front ++ '<' :: (name ++ x :: rest))) (hname : ∀ c ∈ name, isNameChar c)
    (hne : name ≠ []) (hx : isNameChar x = false) (hle : utf16Length (front ++ ['<']) ≤ c)
    (hge : c ≤ utf16Length (front ++ '<' :: name)) : d.tagName? ⟨line, c⟩ = some (String.ofList name) := by
  have hline' : d.lines[line]? = some (front ++ ['<'] ++ name ++ x :: rest) := by simpa using hline
  have hge' : c ≤ utf16Length (front ++ ['<'] ++ name) := by simpa using hge
  obtain ⟨before, behind, rfl, hsplit⟩ := exists_split?_between hline' hle hge'
  refine tagName?_of_whole (.inl rfl) hsplit (by simp) hname hne ?_
  intro y r hstop
  rwa [← (List.cons.inj hstop).1]

section Context

theorem exists_of_openTag? (h : openTag? s = some t) : ∃ front, s = front ++ '<' :: t ∧ '<' ∉ t := by
  have hmem : '<' ∈ s.reverse := by
    rw [openTag?, Option.ite_none_right_eq_some] at h
    simpa using h.1
  obtain ⟨behind, front, hs, hlast⟩ := List.eq_append_cons_of_mem hmem
  obtain rfl : s = front.reverse ++ '<' :: behind.reverse := by
    simpa using congrArg List.reverse hs
  have hlast' : '<' ∉ behind.reverse := mt List.mem_reverse.mp hlast
  obtain rfl : behind.reverse = t := Option.some.inj ((openTag?_append hlast').symm.trans h)
  exact ⟨front.reverse, rfl, hlast'⟩

theorem of_contextAfter (h : contextAfter s ≠ .outside) : ∃ t, openTag? s = some t ∧
    ((contextAfter s = .element ∧ ∀ c ∈ t, isNameChar c) ∨
      (contextAfter s = .attribute (String.ofList (t.takeWhile isNameChar)) ∧
        t.takeWhile isNameChar ≠ [] ∧ ¬ ∀ c ∈ t, isNameChar c)) := by
  unfold contextAfter at h ⊢
  split at h
  · exact absurd rfl h
  · rename_i t hopen
    refine ⟨t, hopen, ?_⟩
    have hwhole : (t.takeWhile isNameChar).length = t.length ↔ ∀ c ∈ t, isNameChar c := by
      rw [← List.takeWhile_eq_self_iff]
      exact ⟨(List.takeWhile_prefix isNameChar).eq_of_length, congrArg List.length⟩
    dsimp only at h ⊢
    split at h
    · exact absurd rfl h
    · rename_i hopened
      rw [if_neg hopened]
      split at h
      · rename_i hlength
        exact .inl ⟨if_pos hlength, hwhole.mp hlength⟩
      · rename_i hlength
        split at h
        · exact absurd rfl h
        · rename_i hempty
          rw [if_neg hlength, if_neg hempty]
          exact .inr ⟨rfl, by simpa using hempty, mt hwhole.mpr hlength⟩

theorem context_of_before? (h : d.before? p = some s) : d.context p = contextAfter s := by
  rw [context, h]

theorem exists_of_context_attribute (h : d.context p = .attribute tag) : ∃ front x after,
    d.before? p = some (front ++ '<' :: (tag.toList ++ x :: after)) ∧ '<' ∉ tag.toList ++ x :: after ∧
      tag.toList ≠ [] ∧ (∀ c ∈ tag.toList, isNameChar c) ∧ isNameChar x = false := by
  unfold context at h
  split at h
  · cases h
  · rename_i s hbefore
    obtain ⟨t, hopen, ⟨helement, -⟩ | ⟨hattribute, hne, hother⟩⟩ := of_contextAfter (by rw [h]; exact Context.noConfusion)
    · rw [h] at helement
      cases helement
    · obtain rfl := Context.attribute.inj (h.symm.trans hattribute)
      obtain ⟨front, rfl, hlast⟩ := exists_of_openTag? hopen
      obtain ⟨x, after, ht, hx⟩ := exists_eq_takeWhile_append_cons hother
      rw [String.toList_ofList]
      refine ⟨front, x, after, ?_, ?_, hne, fun c hc => List.mem_takeWhile_imp hc, hx⟩
      · rwa [← ht]
      · rwa [← ht]

theorem of_context_element (h : d.context p = .element)
    (hbefore : d.before? p = some (front ++ '<' :: name)) (hlast : '<' ∉ name) :
    ∀ c ∈ name, isNameChar c := by
  rw [context_of_before? hbefore] at h
  obtain ⟨t, hopen, ⟨-, hname⟩ | ⟨hattribute, -⟩⟩ := of_contextAfter (by rw [h]; exact Context.noConfusion)
  · obtain rfl := Option.some.inj ((openTag?_append hlast).symm.trans hopen)
    exact hname
  · rw [h] at hattribute
    cases hattribute

end Context

theorem exists_bound_of_mem_completions {store : Store} {item : CompletionItem}
    (hcontext : d.context p = .attribute tag) (h : item ∈ (d.completions p store).value) :
    ∃ entries, item.data = (Payload.attributes entries).data? ∧
      ∀ e ∈ entries, ∃ helper ∈ store.forTag tag, ∃ a ∈ helper.boundAttributes, e = .ofBound a := by
  have hoffered : (d.completions p store).value = (Candidate.attributes tag store).value.map .ofCandidate := by
    rw [completions, hcontext]
    rfl
  rw [hoffered] at h
  obtain ⟨c, hc, rfl⟩ := List.mem_map.mp h
  obtain ⟨-, entries, -, hpayload⟩ := Candidate.of_mem_attributes hc
  exact ⟨entries, congrArg Payload.data? hpayload, Candidate.exists_bound_of_mem_attributes hc hpayload⟩

/-- Behind a tag name at which an attribute may be completed, each place on the name shows the same tag,
and so the attributes that are offered are bound by the tag helpers whose tooltip is shown there. Behind the
beginning of a tag name, the name under the cursor goes on from it. -/
theorem tagName?_of_context (d : Document) (p : Position) :
    (∀ tag, d.context p = .attribute tag → ∃ front inTag,
      d.before? p = some (front ++ '<' :: inTag) ∧ '<' ∉ inTag ∧
      tag.toList = inTag.takeWhile isNameChar ∧
      ∀ c, utf16Length (front ++ ['<']) ≤ c → c ≤ utf16Length (front ++ '<' :: tag.toList) →
        d.tagName? ⟨p.line, c⟩ = some tag ∧
        ∀ store, d.hover ⟨p.line, c⟩ store =
            (Payload.elements ((store.forTag tag).map .ofDescriptor)).resolve store.lookup ∧
          ∀ item ∈ (d.completions p store).value, ∃ entries,
            item.data = (Payload.attributes entries).data? ∧
            ∀ e ∈ entries, ∃ helper ∈ store.forTag tag, ∃ a ∈ helper.boundAttributes, e = .ofBound a) ∧
    ∀ front name x rest, d.context p = .element → d.before? p = some (front ++ '<' :: name) →
      '<' ∉ name → name ≠ [] → d.lines[p.line]? = some (front ++ '<' :: name ++ x :: rest) →
      ∃ tag, d.tagName? p = some tag ∧ name <+: tag.toList := by
  constructor
  · intro tag hcontext
    obtain ⟨front, x, after, hbefore, hlast, hne, hname, hx⟩ := exists_of_context_attribute hcontext
    refine ⟨front, _, hbefore, hlast, (takeWhile_append_cons hname hx).symm, fun c hle hge => ?_⟩
    have htag : d.tagName? ⟨p.line, c⟩ = some tag := by
      obtain ⟨rest, hline⟩ := exists_line_of_before? hbefore
      rw [List.append_assoc, List.cons_append, List.append_assoc, List.cons_append] at hline
      rw [tagName?_between hline hname hne hx hle hge, String.ofList_toList]
    refine ⟨htag, fun store => ⟨?_, fun item => exists_bound_of_mem_completions hcontext⟩⟩
    rw [hover, htag]
  · intro front name x rest hcontext hbefore hlast hne hline
    have hname := of_context_element hcontext hbefore hlast
    have hsplit := split?_of_before? hbefore hline
    refine ⟨_, tagName?_of_split? hsplit hname (List.cons_ne_nil x rest) (by simp [hne]), ?_⟩
    rw [String.toList_ofList]
    exact List.prefix_append _ _

theorem tagName?_of_context_two_units :
    let d := Document.ofText "😀<𐐀-row title"
    d.context ⟨0, 10⟩ = .attribute "𐐀-row" ∧ d.tagName? ⟨0, 4⟩ = some "𐐀-row" ∧
      d.context ⟨0, 6⟩ = .element ∧
      ∃ tag, d.tagName? ⟨0, 6⟩ = some tag ∧ "𐐀-".toList <+: tag.toList := by
  intro d
  have hcontext : d.context ⟨0, 10⟩ = .attribute "𐐀-row" := by decide +kernel
  have helement : d.context ⟨0, 6⟩ = .element := by decide +kernel
  have hbefore : d.before? ⟨0, 10⟩ = some ("😀".toList ++ '<' :: "𐐀-row ".toList) := by decide +kernel
  have hpartial : d.before? ⟨0, 6⟩ = some ("😀".toList ++ '<' :: "𐐀-".toList) := by decide +kernel
  obtain ⟨front, inTag, hfront, hlast, -, hplaces⟩ := (tagName?_of_context d ⟨0, 10⟩).1 _ hcontext
  obtain ⟨rfl, -, -⟩ := (List.append_cons_inj_of_notMem (by decide) (by decide)).mp
    (Option.some.inj (hbefore.symm.trans hfront))
  refine ⟨hcontext, (hplaces 4 (by decide) (by decide)).1, helement, ?_⟩
  exact (tagName?_of_context d ⟨0, 6⟩).2 _ _ 'r' "ow title".toList helement hpartial (by decide) (by decide)
    (by decide)

end TagTooltips.Document
