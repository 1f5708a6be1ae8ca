import TagTooltips.Server.State

/-! Messages as a client writes them, and a reader that finds no file. -/

namespace TagTooltips

namespace Message

def start : Message := ⟨"initialize", some (.object [("capabilities", .object [])]), true⟩

def listing (files : List String) : Json :=
  .object [("descriptorFiles", .array (files.map .string))]

def startWith (options : Json) : Message :=
  ⟨"initialize", some (.object [("capabilities", .object []), ("initializationOptions", options)]), true⟩

def opened (uri text : String) : Message :=
  ⟨"textDocument/didOpen", some (.object [("textDocument", .object [("uri", .string uri),
    ("languageId", .string "html"), ("version", .ofInt 1), ("text", .string text)])]), false⟩

def changed (uri : String) (texts : List String) : Message :=
  ⟨"textDocument/didChange", some (.object [
    ("textDocument", .object [("uri", .string uri), ("version", .ofInt 2)]),
    ("contentChanges", .array (texts.map fun text => .object [("text", .string text)]))]), false⟩

def about (method uri : String) (p : Position) : Message :=
  ⟨method, some (.object [("textDocument", .object [("uri", .string uri)]),
    ("position", .object [("line", .ofNat p.line), ("character", .ofNat p.character)])]), true⟩

def complete : String → Position → Message := about "textDocument/completion"

def hover : String → Position → Message := about "textDocument/hover"

def resolve (j : Json) : Message := ⟨"completionItem/resolve", some j, true⟩

def projectRemoved (removed : ProjectRemoval) : Message :=
  ⟨"taghelper/projectRemoved", some removed.toJson, false⟩

end Message

def Reader.noFiles : Reader :=
  ⟨fun _ => .error "No such file or directory (os error 2)", fun _ => "no descriptors"⟩

end TagTooltips
