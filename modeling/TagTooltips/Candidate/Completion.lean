import TagTooltips.Candidate.Payload
import TagTooltips.Store.Query

/-! Completion candidates: one for each tag name that some tag helper targets, and one for each
attribute name that is bound on a tag. They carry their payload, but no tooltip yet. -/

namespace TagTooltips

inductive CandidateKind
  | element
  | attribute
  deriving DecidableEq, Repr

def CandidateKind.name : CandidateKind → String
  | .element => "Element"
  | .attribute => "Attribute"

structure Candidate where
  label : String
  kind : CandidateKind
  detail : String
  payload : Payload
  deriving DecidableEq, Repr

namespace Candidate

/-- The candidate for a tag name. It refers to its tag helpers by type name, so that documentation
is looked up when its tooltip is asked for. -/
def ofTag (descriptors : List Descriptor) (tag : String) : Noted Candidate := do
  let names ← descriptors.mapM fun d => shortName d.typeName
  return ⟨tag, .element, ", ".intercalate names,
    .elements (descriptors.map fun d => .named d.typeName)⟩

def elements (s : Store) : Noted (List Candidate) :=
  (s.tags.filter fun tag => !(s.forTag tag).isEmpty).mapM fun tag => ofTag (s.forTag tag) tag

def ofAttribute (name : String) (entries : List AttributeEntry) : Noted Candidate := do
  let detail ← match entries with
    | [] => pure ""
    | e :: _ => e.returnType
  return ⟨name, .attribute, detail, .attributes entries⟩

def boundOn (tag : String) (s : Store) : List BoundAttribute :=
  (s.forTag tag).flatMap (·.boundAttributes)

def attributes (tag : String) (s : Store) : Noted (List Candidate) :=
  let bound := boundOn tag s
  ((bound.map (·.name)).eraseDups.mergeSort fun a b => a ≤ b).mapM fun name =>
    ofAttribute name ((bound.filter (·.name == name)).map .ofBound)

end Candidate

end TagTooltips
