import TagTooltips.CommandLine
import TagTooltips.Server.Wire

/-! The program: the server over standard input and output. Only the reading of files and messages and
the printing happen here. -/

namespace TagTooltips

def systemText : IO.Error → String
  | .alreadyExists _ code text | .otherError code text | .resourceBusy code text
  | .resourceVanished code text | .unsupportedOperation code text | .hardwareFault code text
  | .unsatisfiedConstraints code text | .illegalOperation code text | .protocolError code text
  | .timeExpired code text | .interrupted _ code text | .noFileOrDirectory _ code text
  | .invalidArgument _ code text | .permissionDenied _ code text | .resourceExhausted _ code text
  | .inappropriateType _ code text | .noSuchThing _ code text =>
    text ++ " (os error " ++ toString code ++ ")"
  | .unexpectedEof => "failed to fill whole buffer"
  | .userError text => text

def readFile (path : String) : IO (Except String String) := do
  if path.toList.contains '\x00' then return .error "file name contained an unexpected NUL byte"
  try
    -- Not by `readBinFile`, whose errors have words and numbers other than those of the system.
    let file ← IO.FS.Handle.mk path .read
    let bytes ← file.readBinToEnd
    return match String.fromUTF8? bytes with
      | some text => .ok text
      | none => .error "stream did not contain valid UTF-8"
  catch cause => return .error (systemText cause)

def complaint (text : String) : String :=
  if (Json.ofTextStrict? text.toList).isSome then
    "data did not match any variant of untagged enum DescriptorFile"
  else "the text is not JSON"

def readFiles (paths : List String) : IO Reader := do
  let found ← paths.mapM fun path => return (path, ← readFile path)
  return ⟨fun path => (found.lookup path).getD (.error "not read"), complaint⟩

/-- The length of the next message, from its header; `none` at the end of the input. -/
partial def readHeader (input : IO.FS.Stream) (length : Option Nat) : IO (Option Nat) := do
  let line ← input.getLine
  if line.isEmpty then return none
  else if line.trimAscii.isEmpty then return length
  else readHeader input ((Wire.contentLength? line).or length)

partial def readBytes (input : IO.FS.Stream) (count : Nat) (bytes : ByteArray) : IO ByteArray := do
  if count ≤ bytes.size then return bytes
  let more ← input.read (count - bytes.size).toUSize
  if more.isEmpty then return bytes
  readBytes input count (bytes ++ more)

def logNotes (debug : Bool) (notes : List Note) : IO Unit := do
  for note in notes do
    if debug || note.level == .warn then IO.eprintln (note.level.name ++ ": " ++ note.message)

partial def serve (input output : IO.FS.Stream) (server : Server) : IO Unit := do
  let some length ← readHeader input none | return
  let bytes ← readBytes input length .empty
  match (String.fromUTF8? bytes).bind Wire.ofText? with
  | none => serve input output server
  | some envelope =>
    let files ← readFiles (Wire.filesNeeded envelope.message)
    logNotes server.debug (server.receive files envelope.message).notes
    let (server, exchange) := server.exchange files envelope.message
    for j in Wire.outgoing envelope exchange do output.putStr (Wire.frame j)
    output.flush
    if server.phase == .exited then return
    serve input output server

def run (arguments : List String) : IO UInt32 := do
  match CommandLine.invoke arguments with
  | .error exit =>
    IO.print exit.stdout
    IO.eprint exit.stderr
    return exit.code.toUInt32
  | .ok a =>
    let loaded := Store.empty.loadAll (← readFiles a.descriptors) a.descriptors
    logNotes a.debug loaded.notes
    for cause in loaded.value.2 do IO.eprintln ("error: " ++ cause.message)
    serve (← IO.getStdin) (← IO.getStdout) (.fresh a.debug loaded.value.1)
    return Exit.success.code.toUInt32

end TagTooltips

def main (arguments : List String) : IO UInt32 := TagTooltips.run arguments
