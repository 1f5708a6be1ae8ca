import TagTooltips.Store.Basic
import TagTooltips.Text.Case

/-! Queries by tag look at current copies only, and their answers are sorted, so that the order of the
types in the store never shows. -/

namespace TagTooltips.Store

def current (s : Store) : List Descriptor :=
  s.entries.filterMap fun entry => entry.2.getLast?.map (·.descriptor)

def appliesTo (tag : String) (d : Descriptor) : Bool := d.tagNames.any (Text.sameIgnoringCase · tag)

def forTag (tag : String) (s : Store) : List Descriptor :=
  (s.current.filter (appliesTo tag)).mergeSort fun a b => a.typeName ≤ b.typeName

def tags (s : Store) : List String :=
  (s.current.flatMap (·.tagNames)).eraseDups.mergeSort fun a b => a ≤ b

end TagTooltips.Store
