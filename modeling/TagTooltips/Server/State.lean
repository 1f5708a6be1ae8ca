import TagTooltips.Server.Feature
import TagTooltips.Server.Message
import TagTooltips.Server.Options
import TagTooltips.Server.Served
import TagTooltips.Store.Loading

/-! The server: whether it debugs, where it is in its life, the open documents, and the store. What it does
with a message depends on nothing else but the files that it is told to load. -/

namespace TagTooltips

inductive Phase
  | waiting
  | running
  | stopping
  | exited
  deriving DecidableEq, Repr

structure Server where
  debug : Bool
  phase : Phase
  documents : List (String × Document)
  store : Store

namespace Server

def fresh (debug : Bool) (store : Store) : Server := ⟨debug, .waiting, [], store⟩

def document? (s : Server) (uri : String) : Option Document := s.documents.lookup uri

def closeDocument (uri : String) (s : Server) : Server :=
  { s with documents := s.documents.filter (·.1 != uri) }

def openDocument (uri : String) (d : Document) (s : Server) : Server :=
  { s with documents := (uri, d) :: (s.closeDocument uri).documents }

/-- Each change replaces the whole text of an open document. -/
def changeDocument (uri : String) (texts : List String) (s : Server) : Server :=
  match s.document? uri with
  | some d => s.openDocument uri (texts.foldl (fun _ text => .ofText text) d)
  | none => s

/-- Take note of what is done. The client is told of it only by a server that debugs. -/
def report (what : Activity) (s : Server) : Served Unit := do
  Noted.note (.activity what)
  if s.debug then Served.send ⟨.info, "[DEBUG] " ++ what.message⟩

def update (u : Update) (what : Nat → Activity) (s : Server) : Served Server := do
  let (store, count) ← u.perform s.store
  s.report (what count)
  return { s with store }

def hoverResult (tooltip : Option String) : Json :=
  match tooltip with
  | some text => .object [("contents", markdown text)]
  | none => .null

def onDocument (s : Server) (uri : String) (answer : Document → Noted Json) : Served Reply :=
  match s.document? uri with
  | some d => do
    let j ← answer d
    return .result j
  | none => pure (.result .null)

def perform (s : Server) : Call → Served (Server × Reply)
  | .initialized => do
    Noted.note .ready
    Served.send ⟨.info, "Tag helper LSP server initialized"⟩
    return (s, .silent)
  | .opened uri text => do
    s.report (.opened uri)
    return (s.openDocument uri (.ofText text), .silent)
  | .changed uri texts => do
    s.report (.changed uri)
    return (s.changeDocument uri texts, .silent)
  | .closed uri => do
    s.report (.closed uri)
    return (s.closeDocument uri, .silent)
  | .projectChanged change => do
    let s ← s.update (.ofChange change) (.projectChanged change.project)
    return (s, .silent)
  | .projectRemoved removed => do
    let s ← s.update (.withdraw removed.project) (.projectRemoved removed.project)
    return (s, .silent)
  | .hover uri position => do
    s.report (.hovering position)
    let reply ← s.onDocument uri fun d => hoverResult <$> d.hover position s.store
    return (s, reply)
  | .completion uri position => do
    s.report (.completing position)
    let reply ← s.onDocument uri fun d => do
      let items ← d.completions position s.store
      return .array (items.map CompletionItem.toJson)
    return (s, reply)
  | .resolve item => do
    s.report (.resolving item.label)
    let item ← item.resolve s.store.lookup
    return (s, .result item.toJson)
  | .unsupported => return (s, .refused .unsupported)
  | .ignored => return (s, .silent)

def startResult : Json :=
  .object [
    ("capabilities", .object [
      ("textDocumentSync", .ofNat 1),
      ("hoverProvider", .bool true),
      ("completionProvider", .object [
        ("resolveProvider", .bool true),
        ("triggerCharacters", .array [.string "<", .string " "])])]),
    ("serverInfo", .object [("name", .string "taghelper-lsp"), ("version", .string "0.1.0")])]

def loadFile (read : Reader) (s : Server) (path : String) : Served Server := do
  match ← s.store.load read path with
  | .ok (store, count) =>
    s.report (.loaded count path)
    return { s with store }
  | .error cause =>
    Noted.note (.fileSkipped cause)
    Served.send ⟨.warn, cause.message⟩
    return s

def start (read : Reader) (options : Option Json) (s : Server) : Served Server := do
  s.report .starting
  let paths ← descriptorFiles options
  let s ← paths.foldlM (loadFile read) s
  return { s with phase := .running }

/-- A request is refused, a notification is passed over. -/
def refuse (m : Message) (why : Refusal) : Reply := if m.isRequest then .refused why else .silent

def refusalIn : Phase → Refusal
  | .waiting => .notStarted
  | _ => .invalidRequest

def receiveStart (read : Reader) (m : Message) (s : Server) : Served (Server × Reply) :=
  if s.phase = .waiting then
    if m.isRequest then
      match m.params.bind Shape.startParams.canonical? with
      | some params => do
        let s ← s.start read (params.member? "initializationOptions")
        return (s, .result startResult)
      | none => return (s, .refused .invalidParams)
    else return (s, .silent)
  else return (s, refuse m .invalidRequest)

def receiveShutdown (m : Message) (s : Server) : Served (Server × Reply) :=
  if s.phase = .running then
    let s := { s with phase := .stopping }
    if !m.isRequest then return (s, .silent)
    else if m.params.isSome then return (s, .refused .invalidParams)
    else do
      s.report .shuttingDown
      return (s, .result .null)
  else return (s, refuse m (refusalIn s.phase))

def receiveCall (read? : Json → Option Call) (m : Message) (s : Server) : Served (Server × Reply) :=
  if s.phase = .running then
    match m.params.bind read? with
    | some call => s.perform call
    | none => return (s, refuse m .invalidParams)
  else return (s, refuse m (refusalIn s.phase))

/-- Answer a message that comes as a request where a notification is due, or the other way round. -/
def receiveMisfit (m : Message) (s : Server) : Served (Server × Reply) :=
  if s.phase = .running then return (s, refuse m .invalidRequest)
  else return (s, refuse m (refusalIn s.phase))

/-- Answer a message of an unknown method; such requests under `$/` are passed over. -/
def receiveUnknown (m : Message) (s : Server) : Served (Server × Reply) :=
  return (s, if "$/".toList.isPrefixOf m.method.toList then .silent else refuse m (.unknownMethod m.method))

/-- Answer a message that cancels a request. Nothing is ever pending, so that there is nothing to do. -/
def receiveCancel (m : Message) (s : Server) : Served (Server × Reply) :=
  return (s, refuse m .invalidRequest)

def receive (read : Reader) (m : Message) (s : Server) : Served (Server × Reply) :=
  if s.phase = .exited then return (s, .exited)
  else if m.method = "exit" then return ({ s with phase := .exited }, .silent)
  else if m.method = "$/cancelRequest" then s.receiveCancel m
  else if m.method = "initialize" then s.receiveStart read m
  else if m.method = "shutdown" then s.receiveShutdown m
  else match Call.ofRequest? m.method, Call.ofNotification? m.method with
    | some read?, _ => if m.isRequest then s.receiveCall read? m else s.receiveMisfit m
    | none, some read? => if m.isRequest then s.receiveMisfit m else s.receiveCall read? m
    | none, none => s.receiveUnknown m

end Server

end TagTooltips
