import TagTooltips.Proofs.Server.Documents
import TagTooltips.Proofs.Store.Query

/-! The tooltip of a tag is the same wherever it is shown. An item refers to its tag helpers by type and has
them looked up when it is resolved; a hover takes them from the query by tag, with their documentation. -/

namespace TagTooltips

open Tooltip

def Store.tagTooltip? (s : Store) (tag : String) : Option String :=
  if s.forTag tag = [] then none
  else some (separator.intercalate ((s.forTag tag).map fun d => s.elementBlock d.typeName))

theorem Document.value_hover {s : Store} (h : s.WellFormed) {d : Document} {position : Position}
    {tag : String} (htag : d.tagName? position = some tag) :
    (d.hover position s).value = s.tagTooltip? tag := by
  have hhover : d.hover position s =
      (Payload.elements ((s.forTag tag).map .ofDescriptor)).resolve s.lookup := by
    rw [Document.hover, htag]
  rw [hhover, Store.tagTooltip?]
  by_cases hnone : s.forTag tag = []
  · rw [if_pos hnone, hnone]
    rfl
  · rw [if_neg hnone]
    exact Payload.value_resolve_ofDescriptor (fun d hd => h.lookup_of_mem_forTag hd) hnone

theorem Candidate.value_resolve_elements {s : Store} (h : s.WellFormed) {c : Candidate}
    (hc : c ∈ (Candidate.elements s).value) :
    (c.payload.resolve s.lookup).value = s.tagTooltip? c.label := by
  obtain ⟨tag, -, hne, rfl⟩ := Candidate.mem_elements_iff.mp hc
  rw [Candidate.value_ofTag, Payload.value_resolve_named h (by simpa using hne), List.map_map]
  exact (if_neg hne).symm

namespace Server

variable {s : Server} {read : Reader} {m : Message} {uri tag : String} {position : Position}
  {d : Document}

theorem receive_hover (hstore : s.store.WellFormed) (hcall : s.call? m = some (.hover uri position))
    (hdocument : s.document? uri = some d) (htag : d.tagName? position = some tag) :
    (s.receive read m).value = (s, .result (hoverResult (s.store.tagTooltip? tag))) := by
  rw [receive_of_call? hcall, value_perform_hover, hdocument, Option.elim_some,
    Document.value_hover hstore htag]

/-- A hover over a tag shows the text that an item for the tag, up to case, is resolved to; it shows nothing
exactly if there is no such item. -/
theorem hover_eq_resolved_item (hstore : s.store.Reachable) (read : Reader)
    (hcall : s.call? m = some (.hover uri position)) (hdocument : s.document? uri = some d)
    (htag : d.tagName? position = some tag) :
    (∀ c ∈ (Candidate.elements s.store).value, Text.sameIgnoringCase c.label tag →
      ∃ (types : List String) (text : String), c.payload = .elements (types.map .named) ∧
        s.ResolvesTo (CompletionItem.ofCandidate c).toJson text ∧
        (s.receive read m).value = (s, .result (.object [("contents", markdown text)]))) ∧
    ((s.receive read m).value = (s, .result .null) ↔
      ∀ c ∈ (Candidate.elements s.store).value, ¬ Text.sameIgnoringCase c.label tag) := by
  have hphase := (call?_eq_some_iff.mp hcall).1
  rw [receive_hover hstore.wellFormed hcall hdocument htag]
  constructor
  · intro c hc hsame
    obtain ⟨-, types, -, hpayload⟩ := Candidate.of_mem_elements hc
    have hne : s.store.forTag tag ≠ [] := Candidate.exists_label_iff.mp ⟨c, hc, hsame⟩
    have htooltip : s.store.tagTooltip? c.label = s.store.tagTooltip? tag := by
      rw [Store.tagTooltip?, Store.forTag_congr hsame, Store.tagTooltip?]
    have htext := Candidate.value_resolve_elements hstore.wellFormed hc
    rw [htooltip, Store.tagTooltip?, if_neg hne] at htext
    rw [Store.tagTooltip?, if_neg hne]
    exact ⟨types, _, hpayload, resolvesTo_ofCandidate hphase htext, rfl⟩
  · have hnone : (∀ c ∈ (Candidate.elements s.store).value, ¬ Text.sameIgnoringCase c.label tag) ↔
        s.store.forTag tag = [] := by
      rw [← not_iff_not, ← ne_eq (s.store.forTag tag), ← Candidate.exists_label_iff]
      simp only [not_forall, not_not, exists_prop]
    rw [hnone, Store.tagTooltip?]
    split
    · rename_i hempty
      exact iff_of_true rfl hempty
    · rename_i hne
      exact iff_of_false (by rintro ⟨⟩) hne

theorem hover_eq_resolved_item_capital :
    let now := ((fresh false linkStore).session .noFiles
      [.start, .opened "file:///a" "<A>", .opened "file:///b" "<b>"]).1
    (∃ text, now.ResolvesTo
        (CompletionItem.ofCandidate (Candidate.ofTag [linkType] "a").value).toJson text ∧
      (now.receive .noFiles (.hover "file:///a" ⟨0, 1⟩)).value =
        (now, .result (.object [("contents", markdown text)]))) ∧
    (now.receive .noFiles (.hover "file:///b" ⟨0, 1⟩)).value = (now, .result .null) := by
  intro now
  have hopened : (Message.opened "file:///b" "<b>").call? = some (.opened "file:///b" "<b>") := rfl
  have hover_a : (Message.hover "file:///a" ⟨0, 1⟩).call? = some (.hover "file:///a" ⟨0, 1⟩) := rfl
  have hover_b : (Message.hover "file:///b" ⟨0, 1⟩).call? = some (.hover "file:///b" ⟨0, 1⟩) := rfl
  have hstart : ((fresh false linkStore).receive .noFiles .start).value.1.phase = .running := rfl
  obtain ⟨hcalls, hphase⟩ := calls_of_running .noFiles hstart
    (.cons (call?_opened "<A>") (.cons hopened .nil))
  have hnow : now.phase = .running := hphase
  have htaken {m : Message} {call : Call} (h : m.call? = some call) : now.call? m = some call :=
    call?_eq_some_iff.mpr ⟨hnow, h⟩
  have hdocument_a : now.document? "file:///a" = some (.ofText "<A>") := rfl
  have hdocument_b : now.document? "file:///b" = some (.ofText "<b>") := rfl
  have htag_a : (Document.ofText "<A>").tagName? ⟨0, 1⟩ = some "A" := by decide
  have htag_b : (Document.ofText "<b>").tagName? ⟨0, 1⟩ = some "b" := by decide
  have hstore : now.store = linkStore := rfl
  have helements : (Candidate.elements now.store).value = [(Candidate.ofTag [linkType] "a").value] := by
    rw [hstore, elements_linkStore]
  have hreachable : now.store.Reachable := hstore ▸ .run .empty _
  obtain ⟨hshown, -⟩ := hover_eq_resolved_item hreachable .noFiles (htaken hover_a) hdocument_a htag_a
  obtain ⟨-, hnull⟩ := hover_eq_resolved_item hreachable .noFiles (htaken hover_b) hdocument_b htag_b
  rw [helements] at hshown hnull
  obtain ⟨-, text, -, hresolves, hanswer⟩ :=
    hshown _ (List.mem_singleton_self _) (show Text.sameIgnoringCase "a" "A" by decide)
  refine ⟨⟨text, hresolves, hanswer⟩, hnull.mpr fun c hc => ?_⟩
  obtain rfl := List.mem_singleton.mp hc
  exact show ¬ Text.sameIgnoringCase "a" "b" by decide

end Server

end TagTooltips
