import TagTooltips.Descriptor
import TagTooltips.Noted

/-! The store holds, for each type, the copies that projects contribute to it, the most recently
updated last; that one is current. A type stays visible until no project provides it any more. -/

namespace TagTooltips

structure Copy where
  project : String
  descriptor : Descriptor
  deriving DecidableEq, Repr

namespace Copy

/-- Put a project's copy last, in place of its earlier one. -/
def set (project : String) (d : Descriptor) (cs : List Copy) : List Copy :=
  cs.filter (·.project != project) ++ [⟨project, d⟩]

def withdraw (project : String) (cs : List Copy) : List Copy :=
  cs.filter (·.project != project)

end Copy

/-- Copies filed under type names, in no particular order of the names. -/
structure Store where
  entries : List (String × List Copy)
  deriving DecidableEq, Repr

namespace Store

def empty : Store := ⟨[]⟩

def types (s : Store) : List String := s.entries.map (·.1)

/-- The copies of a type, the current one last. -/
def copies (s : Store) (type : String) : List Copy := (s.entries.lookup type).getD []

def lookup (s : Store) (type : String) : Option Descriptor :=
  (s.copies type).getLast?.map (·.descriptor)

def size (s : Store) : Nat := s.entries.length

def isEmpty (s : Store) : Bool := s.entries.isEmpty

inductive Step
  | write (d : Descriptor)
  /-- Drop a project's copy of a type, and the type with its last copy. -/
  | retire (type : String)
  deriving DecidableEq, Repr

/-- Change what is filed under a type; nothing is filed under a type without copies. -/
def modify (type : String) (f : List Copy → List Copy) :
    List (String × List Copy) → List (String × List Copy)
  | [] => if (f []).isEmpty then [] else [(type, f [])]
  | (t, cs) :: rest =>
    if t = type then (if (f cs).isEmpty then rest else (t, f cs) :: rest)
    else (t, cs) :: modify type f rest

def step (project : String) (s : Store) : Step → Store
  | .write d => ⟨modify d.typeName (Copy.set project d) s.entries⟩
  | .retire type => ⟨modify type (Copy.withdraw project) s.entries⟩

def writes (batch : List Descriptor) : List Step := batch.map .write

def cleanup (batch : List Descriptor) (types : List String) : List Step :=
  (types.filter fun t => !(batch.map (·.typeName)).contains t).map .retire

/-- The steps by which a batch takes the place of all that a project contributes. The batch is written before
stale copies are dropped, so that a type in both never disappears in between. The types that are then
present are visited in some order, which no one can rely on. -/
def refresh (project : String) (batch : List Descriptor) (order : List String → List String) (s : Store) :
    List Step :=
  writes batch ++ cleanup batch (order ((writes batch).foldl (step project) s).types)

def provide (project : String) (batch : List Descriptor) (s : Store) : Store :=
  (s.refresh project batch id).foldl (step project) s

def withdraw (project : String) (s : Store) : Store :=
  (cleanup [] s.types).foldl (step project) s

def providedBy (project : String) (s : Store) : List String :=
  s.types.filter fun t => (s.copies t).any (·.project == project)

end Store

inductive Update
  | provide (project : String) (batch : List Descriptor)
  | withdraw (project : String)
  deriving DecidableEq, Repr

namespace Update

def ofChange (change : ProjectSnapshot) : Update := .provide change.project change.descriptors

def apply (s : Store) : Update → Store
  | provide project batch => s.provide project batch
  | withdraw project => s.withdraw project

/-- The number that is reported for an update: of the types in a batch, or of the types to which the
project contributed until then. -/
def count (s : Store) : Update → Nat
  | provide _ batch => (batch.map (·.typeName)).eraseDups.length
  | withdraw project => (s.providedBy project).length

def note : Update → Note
  | provide .. => .descriptorsUpdated
  | withdraw _ => .projectWithdrawn

def perform (u : Update) (s : Store) : Noted (Store × Nat) := do
  Noted.note u.note
  return (u.apply s, u.count s)

end Update

end TagTooltips
