import TagTooltips.Json.Reader
import TagTooltips.Store.Basic

/-! Descriptor files. What a file does to a store is decided without looking at the store: it is an
update, or a failure that leaves the store alone. -/

namespace TagTooltips

/-- How files are read, and what is said of those that cannot be. The words are those of the system and of
the JSON reader. -/
structure Reader where
  text : String → Except String String
  complaint : String → String

/-- The update in a file. A bare list of descriptors belongs to a project named by the path. -/
def Update.ofFile (read : Reader) (path : String) : Except Failure Update :=
  match read.text path with
  | .error cause => .error (.unreadable path cause)
  | .ok text =>
    match (Json.ofTextStrict? text.toList).bind FileContent.ofJson? with
    | some (.project change) => .ok (.ofChange change)
    | some (.bare descriptors) => .ok (.provide path descriptors)
    | none => .error (.malformed (read.complaint text))

def Store.load (read : Reader) (path : String) (s : Store) : Noted (Except Failure (Store × Nat)) :=
  match Update.ofFile read path with
  | .error cause => pure (.error cause)
  | .ok update => do
    let loaded ← update.perform s
    return .ok loaded

/-- Load files in order into a store. Files that fail are skipped; their failures are returned. -/
def Store.loadAll (read : Reader) : List String → Store → Noted (Store × List Failure)
  | [], s => pure (s, [])
  | path :: paths, s => do
    match ← s.load read path with
    | .ok (s, _) => s.loadAll read paths
    | .error cause =>
      let (s, causes) ← s.loadAll read paths
      return (s, cause :: causes)

end TagTooltips
