import TagTooltips.Candidate.Resolution
import TagTooltips.Proofs.Candidate.Payload
import TagTooltips.Proofs.Store.Filing
import TagTooltips.Proofs.Tooltip.Block

/-! The tooltip of a payload as a text: one block for each entry, with what the store knows of its type. -/

namespace TagTooltips

open Tooltip

def Store.elementBlock (s : Store) (type : String) : String :=
  "**" ++ (shortName type).value ++ "**" ++ (s.lookup type).elim "" fun d => addition d.documentation

theorem Store.elementBlock_of_lookup_eq_none {s : Store} {type : String} (h : s.lookup type = none) :
    s.elementBlock type = "**" ++ (shortName type).value ++ "**" := by
  rw [elementBlock, h]
  exact String.append_empty

theorem Store.WellFormed.value_document_named {s : Store} (h : s.WellFormed) (type : String) :
    (Payload.document s.lookup (.named type)).value = ⟨type, (s.lookup type).bind (·.documentation)⟩ := by
  simp only [Payload.document, ElementEntry.named]
  cases hlookup : s.lookup type with
  | none => rfl
  | some d =>
    show ElementEntry.mk d.typeName d.documentation = ⟨type, d.documentation⟩
    rw [h.typeName_of_lookup hlookup]

theorem Store.WellFormed.value_block_named {s : Store} (h : s.WellFormed) (type : String) :
    (block (Payload.document s.lookup (.named type)).value).value = s.elementBlock type := by
  rw [h.value_document_named, value_block, elementBlock]
  cases s.lookup type <;> rfl

theorem Store.value_block_ofDescriptor {s : Store} {d : Descriptor} (h : s.lookup d.typeName = some d) :
    (block (Payload.document s.lookup (.ofDescriptor d)).value).value = s.elementBlock d.typeName := by
  have hdocument : (Payload.document s.lookup (.ofDescriptor d)).value = .ofDescriptor d := by
    simp only [Payload.document, ElementEntry.ofDescriptor, h]
    cases hnone : d.documentation with
    | some text => rfl
    | none => exact congrArg (ElementEntry.mk d.typeName) hnone
  rw [hdocument, value_block, elementBlock, h]
  rfl

namespace Payload

theorem value_resolve_ofDescriptor {s : Store} {ds : List Descriptor}
    (hds : ∀ d ∈ ds, s.lookup d.typeName = some d) (hne : ds ≠ []) :
    ((elements (ds.map .ofDescriptor)).resolve s.lookup).value =
      some (separator.intercalate (ds.map fun d => s.elementBlock d.typeName)) := by
  have hentries : (ds.map .ofDescriptor).map (fun e => (document s.lookup e).value) ≠ [] := by
    simpa using hne
  rw [resolve, Noted.value_bind, Noted.value_mapM, value_compose hentries, List.map_map, List.map_map]
  congr 2
  exact List.map_congr_left fun d hd => Store.value_block_ofDescriptor (hds d hd)

theorem value_resolve_named {s : Store} (h : s.WellFormed) {types : List String} (hne : types ≠ []) :
    ((elements (types.map .named)).resolve s.lookup).value =
      some (separator.intercalate (types.map s.elementBlock)) := by
  have hentries : (types.map .named).map (fun e => (document s.lookup e).value) ≠ [] := by
    simpa using hne
  rw [resolve, Noted.value_bind, Noted.value_mapM, value_compose hentries, List.map_map, List.map_map]
  congr 2
  exact List.map_congr_left fun type _ => h.value_block_named type

theorem value_resolve_attributes (lookup : Lookup) {entries : List AttributeEntry} (hne : entries ≠ []) :
    ((attributes entries).resolve lookup).value =
      some (separator.intercalate (entries.map fun e => (block e).value)) := value_compose hne

theorem tooltipOfData_data? (lookup : Lookup) (p : Payload) :
    tooltipOfData lookup p.data? = p.resolve lookup := by
  rw [tooltipOfData, ofData_data?, pure_bind]

end Payload

end TagTooltips
