import TagTooltips.Proofs.Candidate.Completion
import TagTooltips.Proofs.Candidate.Resolution
import TagTooltips.Proofs.Server.Item
import TagTooltips.Proofs.Server.Request
import TagTooltips.Proofs.Server.Run

/-! Items that come back. However much has happened since an item was sent, resolving it gives the tooltip of
what the store holds now, and nothing else of the item changes. -/

namespace TagTooltips

namespace Server

variable {read : Reader} {m : Message} {s : Server} {j : Json} {text : String}
  {item : CompletionItem} {c : Candidate}

theorem receive_resolve (hphase : s.phase = .running) (hitem : CompletionItem.ofJson? j = some item) :
    (s.receive read (.resolve j)).value = (s, .result (item.resolve s.store.lookup).value.toJson) := by
  have hmethod : (Message.resolve j).method = "completionItem/resolve" := rfl
  have hrequest : Call.ofRequest? "completionItem/resolve" =
      some fun j => (CompletionItem.ofJson? j).map .resolve := rfl
  have hcall : (some j).bind (fun j => (CompletionItem.ofJson? j).map Call.resolve) =
      some (.resolve item) := by
    rw [Option.bind_some, hitem, Option.map_some]
  have hreceive : s.receive read (.resolve j) =
      s.receiveCall (fun j => (CompletionItem.ofJson? j).map .resolve) (.resolve j) := by
    unfold receive
    rw [hmethod, if_neg (by rw [hphase]; decide), if_neg (by decide), if_neg (by decide),
      if_neg (by decide), if_neg (by decide), hrequest]
    exact if_pos rfl
  rw [hreceive, receiveCall, if_pos hphase]
  simp only [Message.resolve, hcall]
  rfl

/-- The item comes back with a text as its documentation and with all its other fields as they were, and
the server stays as it is. Sent again while the store is the same, it comes back unchanged. -/
def ResolvesTo (s : Server) (j : Json) (text : String) : Prop :=
  ∃ fields fields', j = .object fields ∧
    (∀ read, (s.receive read (.resolve j)).value = (s, .result (.object fields'))) ∧
    fields'.filter (·.1 != "documentation") = fields ∧
    fields'.lookup "documentation" = some (markdown text) ∧
    ∀ s' : Server, s'.phase = .running → s'.store = s.store →
      ∀ read, (s'.receive read (.resolve (.object fields'))).value = (s', .result (.object fields'))

theorem resolvesTo_ofCandidate (hphase : s.phase = .running)
    (htext : (c.payload.resolve s.store.lookup).value = some text) :
    s.ResolvesTo (CompletionItem.ofCandidate c).toJson text := by
  have hresolved (item : CompletionItem) (hdata : item.data = c.payload.data?) :
      (item.resolve s.store.lookup).value = item.withTooltip text := by
    rw [CompletionItem.value_resolve, hdata, Payload.tooltipOfData_data?, htext, Option.elim_some]
  have hsent : CompletionItem.ofJson? (CompletionItem.ofCandidate c).toJson =
      some (CompletionItem.ofCandidate c) := CompletionItem.ofJson?_toJson c none
  have hagain : CompletionItem.ofJson? ((CompletionItem.ofCandidate c).withTooltip text).toJson =
      some ((CompletionItem.ofCandidate c).withTooltip text) := CompletionItem.ofJson?_toJson c (some text)
  obtain ⟨fields, fields', hfields, hfields', hframe, hdocumentation⟩ :=
    CompletionItem.fields_withTooltip c text
  refine ⟨fields, fields', hfields, fun read => ?_, hframe, hdocumentation, ?_⟩
  · rw [receive_resolve hphase hsent, hresolved _ rfl, hfields']
  · intro s' hphase' hstore read
    rw [hfields'] at hagain
    rw [receive_resolve hphase' hagain, hstore, hresolved _ rfl, CompletionItem.withTooltip_withTooltip,
      hfields']

theorem exists_candidate_of_mem_itemsAt {d : Document} {position : Position}
    (h : j ∈ s.itemsAt d position) : ∃ c, j = (CompletionItem.ofCandidate c).toJson ∧
      ((c.kind = .element ∧ ∃ types, types ≠ [] ∧ c.payload = .elements (types.map .named)) ∨
        (c.kind = .attribute ∧ ∃ entries, entries ≠ [] ∧ c.payload = .attributes entries)) := by
  obtain ⟨item, hitem, rfl⟩ := List.mem_map.mp h
  unfold Document.completions at hitem
  split at hitem
  · obtain ⟨c, hc, rfl⟩ := List.mem_map.mp hitem
    exact ⟨c, rfl, .inl (Candidate.of_mem_elements hc)⟩
  · obtain ⟨c, hc, rfl⟩ := List.mem_map.mp hitem
    exact ⟨c, rfl, .inr (Candidate.of_mem_attributes hc)⟩
  · cases hitem

/-- An item that the server listed in its answer to some message can be resolved as long as the server runs.
An element item is resolved to the blocks of the types in its data, as the store has them when it is
resolved; an attribute item is resolved to one and the same text always. -/
theorem resolvesTo_of_listed {store : Store} (hstore : store.Reachable) (debug : Bool)
    (read : Reader) (earlier : List Message) (m : Message) {items : List Json} {j : Json}
    (hanswer : (((fresh debug store).session read earlier).1.exchange read m).2.reply =
      .result (.array items)) (hj : j ∈ items) :
    let now later := ((fresh debug store).session read (earlier ++ m :: later)).1
    (j.member? "kind" = some (.ofInt 7) ∧ ∃ types, types ≠ [] ∧
      j.member? "data" = (Payload.elements (types.map .named)).data? ∧
      ∀ later, (now later).phase = .running → (now later).ResolvesTo j
        (Tooltip.separator.intercalate (types.map (now later).store.elementBlock))) ∨
    (j.member? "kind" = some (.ofInt 10) ∧ ∃ entries, entries ≠ [] ∧
      j.member? "data" = (Payload.attributes entries).data? ∧
      ∀ later, (now later).phase = .running → (now later).ResolvesTo j
        (Tooltip.separator.intercalate (entries.map fun e => (Tooltip.block e).value))) := by
  intro now
  have hnow (later : List Message) : (now later).store.WellFormed :=
    (reachable_session (s := fresh debug store) hstore _).wellFormed
  obtain ⟨-, d, position, rfl⟩ := of_receive hanswer
  obtain ⟨c, rfl, ⟨hkind, types, hne, hpayload⟩ | ⟨hkind, entries, hne, hpayload⟩⟩ :=
    exists_candidate_of_mem_itemsAt hj
  · left
    refine ⟨?_, types, hne, ?_, fun later hphase => resolvesTo_ofCandidate hphase ?_⟩
    · rw [CompletionItem.member?_kind, hkind]
      rfl
    · rw [CompletionItem.member?_data, hpayload]
    · rw [hpayload]
      exact Payload.value_resolve_named (hnow later) hne
  · right
    refine ⟨?_, entries, hne, ?_, fun later hphase => resolvesTo_ofCandidate hphase ?_⟩
    · rw [CompletionItem.member?_kind, hkind]
      rfl
    · rw [CompletionItem.member?_data, hpayload]
    · rw [hpayload]
      exact Payload.value_resolve_attributes _ hne

def linkType : Descriptor := ⟨"Ns.Link", some "<summary>Links.</summary>", ["a"], []⟩

def linkStore : Store := Operation.run Store.empty (.upsert "web" [linkType])

theorem elements_linkStore :
    (Candidate.elements linkStore).value = [(Candidate.ofTag [linkType] "a").value] := by
  have htags : linkStore.tags = ["a"] := List.mergeSort_singleton _
  have hforTag : linkStore.forTag "a" = [linkType] := List.mergeSort_singleton _
  rw [Candidate.elements, htags, Noted.value_mapM, List.filter_cons_of_pos (by rw [hforTag]; rfl),
    List.filter_nil, List.map_singleton, hforTag]

theorem resolvesTo_of_listed_removed :
    let asked := ((fresh false linkStore).session .noFiles [.start, .opened "file:///a" "<"]).1
    let now := ((fresh false linkStore).session .noFiles [.start, .opened "file:///a" "<",
      .complete "file:///a" ⟨0, 1⟩, .projectRemoved ⟨"web"⟩]).1
    ∃ items j, (asked.exchange .noFiles (.complete "file:///a" ⟨0, 1⟩)).2.reply =
        .result (.array items) ∧ j ∈ items ∧
      now.ResolvesTo j ("**" ++ (shortName "Ns.Link").value ++ "**") := by
  intro asked now
  have hanswer : (asked.exchange .noFiles (.complete "file:///a" ⟨0, 1⟩)).2.reply =
      .result (.array (asked.itemsAt (.ofText "<") ⟨0, 1⟩)) := rfl
  have hitems : asked.itemsAt (.ofText "<") ⟨0, 1⟩ =
      ((Candidate.elements linkStore).value.map CompletionItem.ofCandidate).map CompletionItem.toJson := rfl
  have hlisted : (CompletionItem.ofCandidate (Candidate.ofTag [linkType] "a").value).toJson ∈
      asked.itemsAt (.ofText "<") ⟨0, 1⟩ := by
    rw [hitems, elements_linkStore]
    exact List.mem_singleton_self _
  refine ⟨_, _, hanswer, hlisted, ?_⟩
  rcases resolvesTo_of_listed (.run .empty _) false .noFiles _ _ hanswer hlisted with
    ⟨-, types, -, hdata, hresolves⟩ | ⟨hkind, -⟩
  · have hpayload : Payload.elements (types.map .named) = .elements [.named "Ns.Link"] := by
      apply Payload.data?_injective
      rw [← hdata, CompletionItem.member?_data]
      rfl
    obtain rfl : types = ["Ns.Link"] := by
      simpa [List.map_eq_cons_iff, ElementEntry.named] using hpayload
    have htext : Tooltip.separator.intercalate (["Ns.Link"].map now.store.elementBlock) =
        "**" ++ (shortName "Ns.Link").value ++ "**" := by
      rw [List.map_singleton, String.intercalate_singleton]
      exact Store.elementBlock_of_lookup_eq_none rfl
    rw [← htext]
    exact hresolves [.projectRemoved ⟨"web"⟩] rfl
  · cases hkind

end Server

end TagTooltips
