import TagTooltips.Proofs.Candidate.Resolution
import TagTooltips.Proofs.Lookup

/-! The data of an item. It is written as an object with one reserved key, and it is found again in any object
that has that member, whatever else is there. A strict reader takes the object with one key only; where it
reads a payload, both find the same. -/

namespace TagTooltips.Payload

open Json

/-- The members of an object stay in their order, and any others may come between them, but for the
reserved keys. -/
inductive Widened : List (String × Json) → List (String × Json) → Prop
  | nil : Widened [] []
  | keep {members wider : List (String × Json)} (member : String × Json) :
      Widened members wider → Widened (member :: members) (member :: wider)
  | add {members wider : List (String × Json)} (key : String) (j : Json) :
      key ≠ elementKey → key ≠ attributeKey →
      Widened members wider → Widened members ((key, j) :: wider)

variable {members wider : List (String × Json)} {key : String} {j : Json} {p : Payload}

theorem Widened.lookup_eq (h : Widened members wider) (hkey : key = elementKey ∨ key = attributeKey) :
    wider.lookup key = members.lookup key := by
  induction h with
  | nil => rfl
  | keep member _ ih => rw [lookup_cons_eq_ite, lookup_cons_eq_ite, ih]
  | add other j helement hattribute _ ih =>
    have hne : key ≠ other := by
      rintro rfl
      exact hkey.elim helement hattribute
    rw [lookup_cons_eq_ite, if_neg hne, ih]

theorem Widened.ofData_eq (h : Widened members wider) :
    ofData (some (.object wider)) = ofData (some (.object members)) := by
  have helement : (Json.object wider).member? elementKey = (Json.object members).member? elementKey :=
    h.lookup_eq (.inl rfl)
  have hattribute : (Json.object wider).member? attributeKey = (Json.object members).member? attributeKey :=
    h.lookup_eq (.inr rfl)
  simp only [ofData, Option.bind_eq_bind, Option.bind_some, helement, hattribute]

theorem ofJson?_of_mem_data? (h : j ∈ p.data?) : ofJson? j = some p := by
  cases p with
  | untyped => cases h
  | elements entries =>
    obtain rfl := Option.mem_some_iff.mp h
    rw [ofJson?, if_pos rfl, list?_map ElementEntry.ofJson?_toJson, Option.map_some]
  | attributes entries =>
    obtain rfl := Option.mem_some_iff.mp h
    rw [ofJson?, if_neg (by decide), if_pos rfl, list?_map AttributeEntry.ofJson?_toJson, Option.map_some]

theorem ofData_of_ofJson? (h : ofJson? j = some p) : ofData (some j) = pure p := by
  unfold ofJson? at h
  split at h
  · rename_i key j
    split at h
    · rename_i hkey
      rw [hkey, ofData_elementKey, h, orMalformed]
    · split at h
      · rename_i hkey
        rw [hkey, ofData_attributeKey, h, orMalformed]
      · cases h
  · cases h

/-- What is written for a payload is read as that payload by either reader, and so its tooltip is the same
from the data. Whatever the strict reader takes, the other reads alike. No other members make
a difference to what is found in an object. -/
theorem ofData_written_or_widened :
    (∀ p : Payload, ofData p.data? = pure p ∧ (∀ j ∈ p.data?, ofJson? j = some p) ∧
      ∀ lookup, tooltipOfData lookup p.data? = p.resolve lookup) ∧
    (∀ j p, ofJson? j = some p → ofData (some j) = pure p) ∧
    ∀ members wider, Widened members wider →
      ofData (some (.object wider)) = ofData (some (.object members)) :=
  ⟨fun p => ⟨ofData_data? p, fun _ => ofJson?_of_mem_data?, fun lookup => tooltipOfData_data? lookup p⟩,
    fun _ _ => ofData_of_ofJson?, fun _ _ => Widened.ofData_eq⟩

theorem ofData_written_or_widened_mixed :
    let entries : Json := .array [.array [.string "Ns.A"],
      .object [("tagHelperTypeName", .string "Ns.B"), ("order", .ofNat 1)]]
    let p : Payload := .elements [.named "Ns.A", .named "Ns.B"]
    ofJson? (.object [(elementKey, entries)]) = some p ∧
    ofData (some (.object [("provider", .string "razor"), (elementKey, entries), ("", .null)])) = pure p ∧
    ∀ j ∈ p.data?, ofJson? j = some p := by
  intro entries p
  have hstrict : ofJson? (.object [(elementKey, entries)]) = some p := rfl
  obtain ⟨written, agree, widened⟩ := ofData_written_or_widened
  refine ⟨hstrict, ?_, (written p).2.1⟩
  rw [widened [(elementKey, entries)] _ (.add _ _ (by decide) (by decide)
    (.keep _ (.add _ _ (by decide) (by decide) .nil)))]
  exact agree _ _ hstrict

end TagTooltips.Payload
