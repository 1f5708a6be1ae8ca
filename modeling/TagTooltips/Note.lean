import TagTooltips.Failure
import TagTooltips.Position

/-! Diagnostics. A note names what was noticed while answering; its level and wording are decided
here once. -/

namespace TagTooltips

inductive Level
  | debug
  | info
  | warn
  deriving DecidableEq, Repr

def Level.name : Level → String
  | .debug => "debug"
  | .info => "info"
  | .warn => "warn"

inductive Activity
  | starting
  | loaded (count : Nat) (path : String)
  | projectChanged (project : String) (count : Nat)
  | projectRemoved (project : String) (count : Nat)
  | shuttingDown
  | opened (uri : String)
  | changed (uri : String)
  | closed (uri : String)
  | hovering (position : Position)
  | completing (position : Position)
  | resolving (label : String)
  deriving DecidableEq, Repr

def Activity.message : Activity → String
  | .starting => "Initializing tag helper LSP server"
  | .loaded count path => "Loaded " ++ toString count ++ " tag helpers from " ++ path
  | .projectChanged project count =>
    "Project " ++ project ++ " now provides " ++ toString count ++ " tag helpers"
  | .projectRemoved project count =>
    "Project " ++ project ++ " removed, dropping " ++ toString count ++ " tag helpers"
  | .shuttingDown => "Shutting down server"
  | .opened uri => "Document opened: " ++ uri
  | .changed uri => "Document changed: " ++ uri
  | .closed uri => "Document closed: " ++ uri
  | .hovering position => "Hover request at " ++ position.describe
  | .completing position => "Completion request at " ++ position.describe
  | .resolving label => "Resolving completion: " ++ label

inductive Note
  | unbalancedGroup
  | reversedSummary
  | malformedReference
  | foreignDisplayName
  | headerFallback (cause : Failure)
  /-- The data of a candidate carries a reserved key but no records. -/
  | malformedPayload
  | unknownType
  | descriptorsUpdated
  | projectWithdrawn
  | malformedOptions
  | fileSkipped (cause : Failure)
  | ready
  | activity (what : Activity)
  deriving DecidableEq, Repr

def Note.level : Note → Level
  | .headerFallback _ | .malformedOptions | .fileSkipped _ => .warn
  | .ready => .info
  | _ => .debug

def Note.message : Note → String
  | .unbalancedGroup => "unbalanced group, keeping unreduced prefix"
  | .reversedSummary => "summary end tag precedes start tag"
  | .malformedReference => "malformed cref value"
  | .foreignDisplayName => "display name does not start with displayed return type"
  | .headerFallback cause | .fileSkipped cause => cause.message
  | .unknownType => "no descriptor cached for tag helper"
  | .descriptorsUpdated => "descriptors updated"
  | .projectWithdrawn => "project removed"
  -- The words of the JSON reader, which follow these two on the error output only, are left out.
  | .malformedPayload => "malformed tag helper payload"
  | .malformedOptions => "ignoring malformed initializationOptions"
  | .ready => "server initialized"
  | .activity what => what.message

structure LogMessage where
  level : Level
  text : String
  deriving DecidableEq, Repr

end TagTooltips
