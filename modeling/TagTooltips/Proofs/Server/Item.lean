import TagTooltips.Server.Item

/-! Items on the way to a client and back. What an item was made from is still in it when it comes back, and
a tooltip changes its documentation only. -/

namespace TagTooltips.CompletionItem

def withTooltip (text : String) (item : CompletionItem) : CompletionItem :=
  { item with documentation := some (markdown text) }

@[simp] theorem withTooltip_withTooltip (text text' : String) (item : CompletionItem) :
    (item.withTooltip text').withTooltip text = item.withTooltip text := rfl

theorem value_resolve (lookup : Lookup) (item : CompletionItem) : (item.resolve lookup).value =
    (Payload.tooltipOfData lookup item.data).value.elim item fun text => item.withTooltip text := by
  rw [resolve, Noted.value_bind]
  cases (Payload.tooltipOfData lookup item.data).value <;> rfl

section

variable (c : Candidate) (text : String)

/-- Nothing is lost when an item goes to a client and back, with its tooltip or without. -/
theorem ofJson?_toJson (tooltip? : Option String) :
    ofJson? (toJson { ofCandidate c with documentation := tooltip?.map markdown }) =
      some { ofCandidate c with documentation := tooltip?.map markdown } := by
  obtain ⟨label, kind, detail, payload⟩ := c
  cases tooltip? <;> cases kind <;> cases payload <;> rfl

theorem member?_kind : (ofCandidate c).toJson.member? "kind" = some (.ofInt (kindCode c.kind)) := rfl

theorem member?_data : (ofCandidate c).toJson.member? "data" = c.payload.data? := by
  obtain ⟨label, kind, detail, payload⟩ := c
  cases payload <;> rfl

theorem fields_withTooltip : ∃ fields fields', (ofCandidate c).toJson = .object fields ∧
    ((ofCandidate c).withTooltip text).toJson = .object fields' ∧
    fields'.filter (·.1 != "documentation") = fields ∧
    fields'.lookup "documentation" = some (markdown text) := by
  obtain ⟨label, kind, detail, payload⟩ := c
  cases payload <;> exact ⟨_, _, rfl, rfl, rfl, rfl⟩

end

end TagTooltips.CompletionItem
