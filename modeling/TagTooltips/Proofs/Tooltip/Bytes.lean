import TagTooltips.Candidate.Resolution
import TagTooltips.Proofs.Candidate.Resolution
import TagTooltips.Proofs.Documentation.Bytes

/-! The tooltip for the data of an item, with every access to a text by an offset checked. Whatever the data
holds and whatever is known of the types, no check fails, and the tooltip is there exactly if there is
something to describe. -/

namespace TagTooltips

open Text

namespace Tooltip.Bytes

def shortName (name : String) : Checked String := String.ofList <$> Signature.Bytes.shortName name.toList

def elementHeader (e : ElementEntry) : Checked String := do
  let name ← shortName e.typeName
  return "**" ++ name ++ "**"

def returnType (e : AttributeEntry) : Checked String := shortName (Signature.displayName e.returnTypeName)

def owner (e : AttributeEntry) : Checked (Except Failure String) := do
  let shown ← returnType e
  let lead := byteLength shown.toList + 1
  let tail := byteLength e.propertyName.toList + 1
  let stop? := (minus? (byteLength e.displayName.toList) tail).filter fun stop => lead ≤ stop
  match stop?.bind fun stop => betweenBytes? lead stop e.displayName.toList with
  | some inner => return .ok (String.ofList inner)
  | none => do
    let shown ← returnType e
    return .error (.noOwner e.displayName shown e.propertyName)

def attributeHeader (e : AttributeEntry) : Checked String := do
  let shown ← returnType e
  match ← owner e with
  | .ok owner => do
    let name ← shortName owner
    return "**" ++ shown ++ "** " ++ name ++ ".**" ++ e.propertyName ++ "**"
  | .error _ => return "**" ++ shown ++ "** **" ++ e.propertyName ++ "**"

def prose (summary : List Char) : Checked String := do
  let text ← Documentation.Bytes.markdown summary
  return String.ofList (stripBoth (· == '\n') text)

theorem prose_eq (summary : List Char) : prose summary = .ok (Tooltip.prose summary).value := by
  rw [prose, Documentation.Bytes.markdown_eq]
  rfl

section Entry

variable {α : Type} [Entry α] (header : α → Checked String)

def block (e : α) : Checked String := do
  let top ← header e
  match ← Documentation.Bytes.extract (Entry.documentation e) with
  | none => return top
  | some summary => do
    let text ← prose summary
    return if text.isEmpty then top else top ++ "\n\n" ++ text

def compose (entries : List α) : Checked (Option String) :=
  if entries.isEmpty then .ok none else do
    let blocks ← entries.mapM (block header)
    return some (separator.intercalate blocks)

variable {header} (hheader : ∀ e, header e = .ok (Entry.header e).value)
include hheader

theorem block_eq (e : α) : block header e = .ok (Tooltip.block e).value := by
  rw [block, hheader, Checked.ok_bind, Documentation.Bytes.extract_eq, Checked.ok_bind]
  unfold Tooltip.block
  rw [Noted.value_bind, Noted.value_bind]
  cases (Documentation.extract (Entry.documentation e)).value with
  | none => rfl
  | some summary =>
    simp only [prose_eq, Checked.ok_bind, Noted.value_bind, Noted.value_pure]
    rfl

theorem compose_eq (entries : List α) : compose header entries = .ok (Tooltip.compose entries).value := by
  rw [compose]
  by_cases hempty : entries = []
  · rw [hempty]
    rfl
  · rw [if_neg (by simpa using hempty), value_compose hempty,
      Checked.mapM_of_ok fun e _ => block_eq hheader e]
    rfl

end Entry

theorem shortName_eq (name : String) : shortName name = .ok (TagTooltips.shortName name).value := by
  rw [shortName, Signature.Bytes.shortName_eq]
  rfl

theorem elementHeader_eq (e : ElementEntry) : elementHeader e = .ok e.header.value := by
  rw [elementHeader, shortName_eq]
  rfl

theorem returnType_eq (e : AttributeEntry) : returnType e = .ok e.returnType.value := shortName_eq _

theorem betweenBytes?_filter (lead tail : Nat) (s : List Char) :
    (((minus? (byteLength s) tail).filter fun stop => lead ≤ stop).bind
      fun stop => betweenBytes? lead stop s) =
      if tail ≤ byteLength s then betweenBytes? lead (byteLength s - tail) s else none := by
  rw [minus?]
  split
  · by_cases hle : lead ≤ byteLength s - tail
    · rw [Option.filter_some, if_pos (by simpa using hle), Option.bind_some]
    · rw [Option.filter_some, if_neg (by simpa using hle), Option.bind_none, betweenBytes?, if_neg hle]
  · rfl

theorem owner_eq (e : AttributeEntry) : owner e = .ok e.owner.value := by
  rw [owner, returnType_eq, Checked.ok_bind, AttributeEntry.owner, Noted.value_bind]
  simp only [betweenBytes?_filter]
  generalize (if byteLength e.propertyName.toList + 1 ≤ byteLength e.displayName.toList then
    betweenBytes? (byteLength e.returnType.value.toList + 1)
      (byteLength e.displayName.toList - (byteLength e.propertyName.toList + 1)) e.displayName.toList
    else none) = inner
  cases inner with
  | some inner => rfl
  | none => rfl

theorem attributeHeader_eq (e : AttributeEntry) : attributeHeader e = .ok e.header.value := by
  rw [attributeHeader, returnType_eq, Checked.ok_bind, owner_eq, Checked.ok_bind, AttributeEntry.header,
    Noted.value_bind, Noted.value_bind]
  cases e.owner.value with
  | ok owner =>
    simp only [shortName_eq, Checked.ok_bind]
    rfl
  | error cause => rfl

end Tooltip.Bytes

namespace Payload

namespace Bytes

def resolve (lookup : Lookup) (p : Payload) : Checked (Option String) :=
  if p.isEmpty then .ok none
  else
    match p with
    | untyped => .ok none
    | elements entries =>
      Tooltip.Bytes.compose Tooltip.Bytes.elementHeader (entries.map fun e => (document lookup e).value)
    | attributes entries => Tooltip.Bytes.compose Tooltip.Bytes.attributeHeader entries

def tooltipOfData (lookup : Lookup) (data : Option Json) : Checked (Option String) :=
  resolve lookup (ofData data).value

end Bytes

theorem value_resolve_eq_none_iff (lookup : Lookup) (p : Payload) :
    (p.resolve lookup).value = none ↔ p.isEmpty := by
  cases p with
  | untyped => exact iff_of_true rfl rfl
  | elements entries =>
    cases entries with
    | nil => exact iff_of_true rfl rfl
    | cons e entries =>
      refine iff_of_false ?_ Bool.false_ne_true
      rw [resolve, Noted.value_bind, Noted.value_mapM, Tooltip.value_compose (by simp)]
      exact Option.some_ne_none _
  | attributes entries =>
    cases entries with
    | nil => exact iff_of_true rfl rfl
    | cons e entries =>
      refine iff_of_false ?_ Bool.false_ne_true
      rw [resolve, Tooltip.value_compose (List.cons_ne_nil e entries)]
      exact Option.some_ne_none _

theorem bytes_resolve_eq (lookup : Lookup) (p : Payload) :
    Bytes.resolve lookup p = .ok (p.resolve lookup).value := by
  unfold Bytes.resolve
  by_cases hempty : p.isEmpty
  · rw [if_pos hempty, (value_resolve_eq_none_iff lookup p).mpr hempty]
  · rw [if_neg hempty]
    cases p with
    | untyped => rfl
    | elements entries =>
      simp only [Tooltip.Bytes.compose_eq Tooltip.Bytes.elementHeader_eq, resolve, Noted.value_bind,
        Noted.value_mapM]
    | attributes entries => exact Tooltip.Bytes.compose_eq Tooltip.Bytes.attributeHeader_eq entries

/-- Checking every offset changes nothing: no check fails, whatever the texts, the offset up to which
a signature is shortened and the known types. A tooltip is missing only if there is nothing to describe. -/
theorem tooltipOfData_within_bounds :
    (∀ s index, Signature.Bytes.shortNameUpTo s index = .ok (Signature.shortNameUpTo s index).value) ∧
    (∀ s, Signature.Bytes.memberName s = .ok (Signature.memberName s).value) ∧
    (∀ block, Documentation.Bytes.extract block = .ok (Documentation.extract block).value) ∧
    (∀ s, Documentation.Bytes.markdown s = .ok (Documentation.markdown s).value) ∧
    (∀ e, Tooltip.Bytes.owner e = .ok e.owner.value) ∧
    ∀ lookup data, Bytes.tooltipOfData lookup data = .ok (tooltipOfData lookup data).value ∧
      ((tooltipOfData lookup data).value.isSome ↔ (ofData data).value.isEmpty = false) := by
  refine ⟨Signature.Bytes.shortNameUpTo_eq, Signature.Bytes.memberName_eq, Documentation.Bytes.extract_eq,
    Documentation.Bytes.markdown_eq, Tooltip.Bytes.owner_eq, fun lookup data => ⟨?_, ?_⟩⟩
  · exact bytes_resolve_eq lookup (ofData data).value
  · have hnone := value_resolve_eq_none_iff lookup (ofData data).value
    rw [Option.isSome_iff_ne_none, ← Bool.not_eq_true]
    exact not_congr hnone

end Payload

end TagTooltips
