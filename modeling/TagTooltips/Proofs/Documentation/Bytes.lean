import TagTooltips.Documentation.Summary
import TagTooltips.Proofs.Documentation.Rewrite
import TagTooltips.Proofs.Signature.Bytes

/-! Documentation read by byte offsets. The offsets of the delimiters come from a copy without case and cut
the block itself; those of the markers come from the summary as it was and are used when the markers behind
are already replaced. All of them stay good. -/

namespace TagTooltips.Documentation.Bytes

open Text

def summary? (block : List Char) : Checked (Option (List Char)) :=
  match offsetOf? summaryStart (foldCase block), offsetOf? summaryEnd (foldCase block) with
  | some opened, some stop =>
    let start := opened + byteLength summaryStart
    if stop < start then .ok none else some <$> slice start stop block
  | _, _ => .ok none

def extract (block : Option String) : Checked (Option (List Char)) :=
  match block with
  | none => .ok none
  | some text => if text.isEmpty then .ok none else summary? text.toList

def renderReference (value : List Char) : Checked (List Char) :=
  match splitAtByte? 2 value with
  | some (_, c :: signature) => do
    let kind ← byteAt value 0
    if kind = asciiByte 'T' then do
      let name ← Signature.Bytes.shortName (c :: signature)
      return codeSpan name
    else if kind = asciiByte 'P' ∨ kind = asciiByte 'M' then do
      let name ← Signature.Bytes.memberName (c :: signature)
      return codeSpan name
    else return c :: signature
  | _ => .ok []

def replaceMarkers (found : List Occurrence) (s : List Char) : Checked (List Char) :=
  found.foldrM (fun o t => do
    let new ← renderReference o.value
    replaceBytes (byteLength (s.take o.start)) (byteLength (s.take o.stop)) new t) s

def markdown (s : List Char) : Checked (List Char) := do
  let shown ← replaceMarkers (occurrences 0 s) s
  return trimLines shown

theorem summary?_eq (block : List Char) : summary? block = .ok (summary block).text? := by
  rw [summary?, summary, offsetOf?, offsetOf?]
  cases hopened : indexOf? summaryStart (foldCase block) with
  | none => rfl
  | some opened =>
    cases hstop : indexOf? summaryEnd (foldCase block) with
    | none => rfl
    | some stop =>
      have hlength : (foldCase block).length = block.length := List.length_map _
      have hstart_le := length_le_of_indexOf? (by decide) hopened
      have hstop_le := Nat.le_of_add_right_le (length_le_of_indexOf? (by decide) hstop)
      rw [hlength] at hstart_le hstop_le
      have hstart : byteLength ((foldCase block).take opened) + byteLength summaryStart =
          byteLength (block.take (opened + summaryStart.length)) := by
        rw [← byteLength_take_foldCase (opened + _), List.take_add, byteLength_append,
          ← List.prefix_iff_eq_take.mp (prefix_of_indexOf? hopened)]
      simp only [Option.map_some]
      rw [hstart, byteLength_take_foldCase]
      by_cases hlt : stop < opened + summaryStart.length
      · rw [if_pos ((byteLength_take_lt_iff hstop_le hstart_le).mpr hlt), if_pos hlt]
        rfl
      · rw [if_neg (mt (byteLength_take_lt_iff hstop_le hstart_le).mp hlt), if_neg hlt,
          slice_take (Nat.le_of_not_lt hlt)]
        rfl

theorem extract_eq (block : Option String) : extract block = .ok (Documentation.extract block).value := by
  cases block with
  | none => rfl
  | some text =>
    rw [extract]
    by_cases hempty : text.isEmpty
    · rw [if_pos hempty, String.isEmpty_iff.mp hempty]
      rfl
    · rw [if_neg hempty, summary?_eq]
      rfl

theorem renderReference_eq (value : List Char) :
    renderReference value = .ok (Documentation.renderReference value).value := by
  rw [renderReference]
  unfold Documentation.renderReference
  cases value with
  | nil => rfl
  | cons kind rest =>
    cases hsplit : splitAtByte? 2 (kind :: rest) with
    | none => rfl
    | some parts =>
      obtain ⟨before, signature⟩ := parts
      cases signature with
      | nil => rfl
      | cons c signature =>
        obtain ⟨y, hbyte, hy⟩ := exists_byteAt [] rest kind.utf8Size_pos
        have hbyte : byteAt (kind :: rest) 0 = .ok y := hbyte
        simp only [hbyte, Checked.ok_bind, hy 'T' rfl, hy 'P' rfl, hy 'M' rfl, Signature.Bytes.shortName_eq,
          Signature.Bytes.memberName_eq]
        split
        · rfl
        · split <;> rfl

theorem replaceMarkers_cons (o : Occurrence) (found : List Occurrence) (s : List Char) :
    replaceMarkers (o :: found) s = (do
      let t ← replaceMarkers found s
      let new ← renderReference o.value
      replaceBytes (byteLength (s.take o.start)) (byteLength (s.take o.stop)) new t) := by
  rw [replaceMarkers, List.foldrM_cons]
  rfl

theorem replaceMarkers_spans (p : Parts) (before : List Char) :
    replaceMarkers (p.spans before.length) (before ++ p.text) =
      .ok (before ++ p.replaced fun value => (Documentation.renderReference value).value) := by
  induction p generalizing before with
  | last gap => rfl
  | cons gap m rest ih =>
    have hrest := ih (before ++ (gap ++ m.text))
    have hlen : before.length + gap.length + m.text.length = (before ++ (gap ++ m.text)).length := by
      simp only [List.length_append, Nat.add_assoc]
    have htext : before ++ (Parts.cons gap m rest).text = before ++ (gap ++ m.text) ++ rest.text := by
      simp only [Parts.text, List.append_assoc]
    rw [Parts.spans, replaceMarkers_cons, htext]
    simp only [hlen]
    rw [hrest, Checked.ok_bind, renderReference_eq, Checked.ok_bind]
    -- This marker still stands where it stood in the text before anything was replaced.
    have hstart : (before ++ (gap ++ m.text) ++ rest.text).take (before.length + gap.length) =
        before ++ gap := by
      rw [← List.length_append, ← List.append_assoc before, List.append_assoc (before ++ gap),
        List.take_left]
    have hreplace := replaceBytes_append (before ++ gap) m.text
      (rest.replaced fun value => (Documentation.renderReference value).value)
      (Documentation.renderReference m.value).value
    rw [hstart, List.take_left, Parts.replaced]
    simpa only [List.append_assoc] using hreplace

theorem markdown_eq (s : List Char) : markdown s = .ok (Documentation.markdown s).value := by
  obtain ⟨p, rfl, -, hspans⟩ := exists_exact_parts 0 s
  have hreplaced := replaceMarkers_spans p []
  rw [List.length_nil, List.nil_append, List.nil_append, hspans] at hreplaced
  have hvalue := value_replaceMarkers_spans Documentation.renderReference p []
  rw [List.length_nil, List.nil_append, List.nil_append, hspans] at hvalue
  rw [markdown, hreplaced, ← hvalue]
  rfl

end TagTooltips.Documentation.Bytes
