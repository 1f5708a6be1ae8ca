import TagTooltips.Descriptor
import TagTooltips.Proofs.Json.Record
import TagTooltips.Proofs.Json.Text

/-! Descriptors in JSON. Each record is read back as it was written. The change of a project and a bare list
of descriptors are never confused: an array can only be a change if a string comes first, and no descriptor
is a string. -/

namespace TagTooltips

open Json

theorem BoundAttribute.ofJson?_toJson (a : BoundAttribute) : ofJson? a.toJson = some a := by
  obtain ⟨name, propertyName, typeName, displayName, documentation⟩ := a
  cases documentation <;> rfl

theorem Descriptor.ofJson?_toJson (d : Descriptor) : ofJson? d.toJson = some d := by
  obtain ⟨typeName, documentation, tagNames, boundAttributes⟩ := d
  have hstring : ∀ s, string? (.string s) = some s := fun _ => rfl
  have hread (documentation? : Option String) :
      (do
        let tagNames ← list? string? (.array (tagNames.map .string))
        let boundAttributes ← list? BoundAttribute.ofJson? (.array (boundAttributes.map BoundAttribute.toJson))
        return Descriptor.mk typeName documentation? tagNames boundAttributes) =
        some ⟨typeName, documentation?, tagNames, boundAttributes⟩ := by
    rw [list?_map hstring, list?_map BoundAttribute.ofJson?_toJson]
    rfl
  cases documentation with
  | none => exact hread none
  | some text => exact hread (some text)

theorem ProjectSnapshot.ofJson?_toJson (c : ProjectSnapshot) : ofJson? c.toJson = some c := by
  obtain ⟨project, descriptors⟩ := c
  have hread : (list? Descriptor.ofJson? (.array (descriptors.map Descriptor.toJson))).bind
      (fun descriptors => some (ProjectSnapshot.mk project descriptors)) = some ⟨project, descriptors⟩ := by
    rw [list?_map Descriptor.ofJson?_toJson, Option.bind_some]
  exact hread

theorem Descriptor.ofJson?_string (s : String) : ofJson? (.string s) = none := rfl

theorem Json.eq_string_of_string? {j : Json} {s : String} (h : string? j = some s) : j = .string s := by
  cases j <;> cases h
  rfl

theorem ProjectSnapshot.exists_eq_cons_of_array {items : List Json} {c : ProjectSnapshot}
    (h : ofJson? (.array items) = some c) : ∃ rest, items = .string c.project :: rest := by
  simp only [ofJson?, Option.bind_eq_bind, Option.bind_eq_some_iff] at h
  obtain ⟨fields, hfields, project, hproject, descriptors, -, hc⟩ := h
  cases hc
  rw [fields?] at hfields
  split at hfields
  · cases hfields
    cases items with
    | nil => cases hproject
    | cons first rest =>
      have hfirst : string? first = some project := hproject
      exact ⟨rest, by rw [Json.eq_string_of_string? hfirst]⟩
  · cases hfields

/-- No value is both the change of a project and a list of descriptors. -/
theorem ProjectSnapshot.ofJson?_eq_none_or (j : Json) :
    ProjectSnapshot.ofJson? j = none ∨ list? Descriptor.ofJson? j = none := by
  cases hchange : ProjectSnapshot.ofJson? j with
  | none => exact .inl rfl
  | some c =>
    refine .inr (Option.eq_none_iff_forall_ne_some.mpr fun batch hbare => ?_)
    cases j with
    | array items =>
      obtain ⟨rest, rfl⟩ := exists_eq_cons_of_array hchange
      obtain ⟨d, hd⟩ := exists_of_list? hbare List.mem_cons_self
      rw [Descriptor.ofJson?_string] at hd
      cases hd
    | _ => cases hbare

section

variable {depth : Nat}

theorem BoundAttribute.legible_toJson (a : BoundAttribute) : Legible (depth + 1) a.toJson := by
  refine legible_object fun m hm => ?_
  simp only [List.mem_cons, List.not_mem_nil, or_false] at hm
  rcases hm with rfl | rfl | rfl | rfl | rfl
  · exact legible_string _
  · exact legible_string _
  · exact legible_string _
  · exact legible_string _
  · exact legible_ofOption _

theorem Descriptor.legible_toJson (d : Descriptor) : Legible (depth + 3) d.toJson := by
  refine legible_object fun m hm => ?_
  simp only [List.mem_cons, List.not_mem_nil, or_false] at hm
  rcases hm with rfl | rfl | rfl | rfl
  · exact legible_string _
  · exact legible_ofOption _
  · exact legible_map legible_string d.tagNames
  · exact legible_map BoundAttribute.legible_toJson d.boundAttributes

theorem ProjectSnapshot.legible_toJson (c : ProjectSnapshot) : Legible (depth + 5) c.toJson := by
  refine legible_object fun m hm => ?_
  simp only [List.mem_cons, List.not_mem_nil, or_false] at hm
  rcases hm with rfl | rfl
  · exact legible_string _
  · exact legible_map Descriptor.legible_toJson c.descriptors

end

end TagTooltips
