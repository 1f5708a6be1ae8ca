/-! What can go wrong, by cause. Rendering a tooltip never fails; a failure arises when a resolver
is put together, a display name is cut, or descriptor data is read. -/

namespace TagTooltips

inductive Failure
  | noLookup
  /-- A display name has no room for its return type and property. -/
  | noOwner (displayName returnType property : String)
  /-- A descriptor file could not be read, in the words of the system. -/
  | unreadable (path cause : String)
  /-- Descriptor data is not JSON, or not of the needed shape, in the words of the JSON reader. -/
  | malformed (cause : String)
  deriving DecidableEq, Repr

def Failure.message : Failure → String
  | .noLookup => "description resolver requires a descriptor lookup"
  | .noOwner displayName returnType property =>
    "display name `" ++ displayName ++ "` cannot hold return type `" ++ returnType ++
      "` and property `" ++ property ++ "`"
  | .unreadable path cause => "failed to read descriptors from " ++ path ++ ": " ++ cause
  | .malformed cause => "invalid descriptor data: " ++ cause

end TagTooltips
