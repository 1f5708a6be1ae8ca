import TagTooltips.Candidate.Payload
import TagTooltips.Proofs.Json.Record

/-! Reading back what was written: a payload comes out of its own data as it went in, whatever texts
it holds. -/

namespace TagTooltips

theorem ElementEntry.ofJson?_toJson (e : ElementEntry) : ofJson? e.toJson = some e := by
  obtain ⟨typeName, documentation⟩ := e
  cases documentation <;> rfl

theorem AttributeEntry.ofJson?_toJson (e : AttributeEntry) : ofJson? e.toJson = some e := by
  obtain ⟨returnTypeName, displayName, propertyName, documentation⟩ := e
  cases documentation <;> rfl

namespace Payload

open Json

/-- What was read under a reserved key, or no payload and a note. -/
def orMalformed : Option Payload → Noted Payload
  | some payload => pure payload
  | none => do
    Noted.note .malformedPayload
    return untyped

theorem ofData_elementKey (j : Json) : ofData (some (.object [(elementKey, j)])) =
    orMalformed ((list? ElementEntry.ofJson? j).map elements) := by
  have hmember : (Json.object [(elementKey, j)]).member? elementKey = some j := rfl
  simp only [ofData, Option.bind_eq_bind, Option.bind_some, hmember, Option.map_some, Option.some_or]
  cases (list? ElementEntry.ofJson? j).map elements <;> rfl

theorem ofData_attributeKey (j : Json) : ofData (some (.object [(attributeKey, j)])) =
    orMalformed ((list? AttributeEntry.ofJson? j).map attributes) := by
  have hother : (Json.object [(attributeKey, j)]).member? elementKey = none := rfl
  have hmember : (Json.object [(attributeKey, j)]).member? attributeKey = some j := rfl
  simp only [ofData, Option.bind_eq_bind, Option.bind_some, hother, hmember, Option.map_none, Option.none_or,
    Option.map_some]
  cases (list? AttributeEntry.ofJson? j).map attributes <;> rfl

theorem ofData_data? (p : Payload) : ofData p.data? = pure p := by
  cases p with
  | untyped => rfl
  | elements entries =>
    rw [data?, ofData_elementKey, list?_map ElementEntry.ofJson?_toJson]
    rfl
  | attributes entries =>
    rw [data?, ofData_attributeKey, list?_map AttributeEntry.ofJson?_toJson]
    rfl

theorem data?_injective : Function.Injective data? := by
  intro p q h
  have hread : ofData p.data? = ofData q.data? := congrArg ofData h
  rw [ofData_data?, ofData_data?] at hread
  exact congrArg Noted.value hread

end Payload

end TagTooltips
