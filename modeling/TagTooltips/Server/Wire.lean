import TagTooltips.Json.Printer
import TagTooltips.Json.Reader
import TagTooltips.Server.Session

/-! Messages on the wire: each is a JSON object behind a header that gives its length in bytes. A
request carries an identifier, and its answer carries the same one. -/

namespace TagTooltips

structure Envelope where
  id? : Option Json
  message : Message

namespace Wire

def protocolMember : String × Json := ("jsonrpc", .string "2.0")

/-- Read a message. One with an identifier is a request, even if the identifier is `null`. -/
def ofJson? (j : Json) : Option Envelope := do
  let method ← (j.member? "method").bind Json.string?
  let id? := j.member? "id"
  return ⟨id?, ⟨method, j.member? "params", id?.isSome⟩⟩

def ofText? (text : String) : Option Envelope := (Json.ofTextStrict? text.toList).bind (ofJson? ·.lastMembers)

def refusal (why : Refusal) : Json :=
  .ofMembers [("code", some (.ofInt why.code)), ("message", some (.string why.message)), ("data", why.data?)]

def answer? (id : Json) : Reply → Option Json
  | .silent | .exited => none
  | .result j => some (.object [protocolMember, ("result", j), ("id", id)])
  | .refused why => some (.object [protocolMember, ("error", refusal why), ("id", id)])

def levelCode : Level → Nat
  | .warn => 2
  | _ => 3

def logMethod : String := "window/logMessage"

def logParams (m : LogMessage) : Json :=
  .object [("type", .ofNat (levelCode m.level)), ("message", .string m.text)]

def logNotification (m : LogMessage) : Json :=
  .object [protocolMember, ("method", .string logMethod), ("params", logParams m)]

def outgoing (e : Envelope) (x : Exchange) : List Json :=
  x.log.map logNotification ++ (e.id?.bind fun id => answer? id x.reply).toList

def frame (j : Json) : String :=
  let body := String.ofList j.render
  "Content-Length: " ++ toString body.utf8ByteSize ++ "\r\n\r\n" ++ body

def contentLength? (line : String) : Option Nat :=
  let name := line.toList.takeWhile (· != ':')
  let value := Text.trim (line.toList.drop (name.length + 1))
  if Text.foldCase name = "content-length".toList then (String.ofList value).toNat? else none

def filesNeeded (m : Message) : List String :=
  if m.method = "initialize" then
    match m.params.bind Shape.startParams.canonical? with
    | some params => (descriptorFiles (params.member? "initializationOptions")).value
    | none => []
  else []

end Wire

end TagTooltips
