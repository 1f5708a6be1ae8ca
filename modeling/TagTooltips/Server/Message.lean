import TagTooltips.Server.Item
import TagTooltips.Server.Shape.Unoffered

/-! Messages from a client and answers to it. A request is answered, a notification is not; each
method is one or the other. -/

namespace TagTooltips

structure Message where
  method : String
  params : Option Json
  isRequest : Bool

inductive Refusal
  | notStarted
  | invalidRequest
  | invalidParams
  | unknownMethod (method : String)
  | unsupported
  deriving DecidableEq, Repr

namespace Refusal

def code : Refusal → Int
  | notStarted => -32002
  | invalidRequest => -32600
  | invalidParams => -32602
  | unknownMethod _ | unsupported => -32601

def message : Refusal → String
  | notStarted => "Server not initialized"
  | invalidRequest => "Invalid request"
  | invalidParams => "Invalid params"
  | unknownMethod _ | unsupported => "Method not found"

def data? : Refusal → Option Json
  | unknownMethod method => some (.string method)
  | _ => none

end Refusal

inductive Reply
  | silent
  | result (j : Json)
  | refused (why : Refusal)
  | exited

inductive Call
  | initialized
  | opened (uri text : String)
  | changed (uri : String) (texts : List String)
  | closed (uri : String)
  | projectChanged (change : ProjectSnapshot)
  | projectRemoved (removed : ProjectRemoval)
  | hover (uri : String) (position : Position)
  | completion (uri : String) (position : Position)
  | resolve (item : CompletionItem)
  /-- A request of the protocol that this server does not offer. -/
  | unsupported
  /-- A notification of the protocol that this server ignores. -/
  | ignored

namespace Call

open Json

def at? (keys : List String) (j : Json) : Option Json := keys.foldlM (fun j key => j.member? key) j

def uri? (j : Json) : Option String := (at? ["textDocument", "uri"] j).bind string?

def position? (j : Json) : Option Position := do
  let line ← (at? ["position", "line"] j).bind nat32?
  let character ← (at? ["position", "character"] j).bind nat32?
  return ⟨line, character⟩

def place? (make : String → Position → Call) (shape : Shape) (j : Json) : Option Call := do
  let j ← shape.canonical? j
  return make (← uri? j) (← position? j)

def opened? (j : Json) : Option Call := do
  let j ← Shape.openParams.canonical? j
  return .opened (← uri? j) (← (at? ["textDocument", "text"] j).bind string?)

def changed? (j : Json) : Option Call := do
  let j ← Shape.changeParams.canonical? j
  let texts ← (j.member? "contentChanges").bind (list? fun change => (change.member? "text").bind string?)
  return .changed (← uri? j) texts

def closed? (j : Json) : Option Call := do
  let j ← Shape.closeParams.canonical? j
  return .closed (← uri? j)

def always (call : Call) (_ : Json) : Option Call := some call

def notifications : List (String × (Json → Option Call)) :=
  [("initialized", fun j => ((Shape.record []).canonical? j).map fun _ => .initialized),
   ("textDocument/didOpen", opened?),
   ("textDocument/didChange", changed?),
   ("textDocument/didClose", closed?),
   ("taghelper/projectChanged", fun j => (ProjectSnapshot.ofJson? j).map .projectChanged),
   ("taghelper/projectRemoved", fun j => (ProjectRemoval.ofJson? j).map .projectRemoved)]

def requests : List (String × (Json → Option Call)) :=
  [("textDocument/hover", place? .hover Shape.hoverParams),
   ("textDocument/completion", place? .completion Shape.completionParams),
   ("completionItem/resolve", fun j => (CompletionItem.ofJson? j).map .resolve)]

def ignoredNotifications : List String :=
  ["textDocument/willSave", "textDocument/didSave", "workspace/didChangeWorkspaceFolders",
   "workspace/didChangeConfiguration", "workspace/didChangeWatchedFiles", "workspace/didCreateFiles",
   "workspace/didRenameFiles", "workspace/didDeleteFiles"]

/-- How the parameters of a notification are read; `none` for what is no notification. -/
def ofNotification? (method : String) : Option (Json → Option Call) :=
  (notifications.lookup method).or
    (if ignoredNotifications.contains method then some (always .ignored) else none)

def ofRequest? (method : String) : Option (Json → Option Call) :=
  (requests.lookup method).or
    ((Shape.unoffered.lookup method).map fun shape j => (shape.canonical? j).map fun _ => .unsupported)

end Call

end TagTooltips
