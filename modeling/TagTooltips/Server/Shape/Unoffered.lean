import TagTooltips.Server.Shape.Params

/-! Shapes of the parameters of requests that the protocol knows and this server does not offer. A
request with other parameters is refused for them. -/

namespace TagTooltips.Shape

def ofDocument (fields : Layout) : Shape := flat (needed "textDocument" textDocument :: fields ++ divided)

def ofPlace (fields : Layout) : Shape := flat (placeFields ++ fields ++ divided)

def signatureHelpContext : Shape := record
  [needed "triggerKind" int32, maybe "triggerCharacter" text, needed "isRetrigger" flag,
   maybe "activeSignatureHelp" signatureHelp]

def codeActionContext : Shape := record
  [needed "diagnostics" (list diagnostic), maybe "only" (list text), maybe "triggerKind" int32]

def fileParams : Shape := record [needed "files" (list (record [needed "uri" text]))]

def fileRenameParams : Shape := record
  [needed "files" (list (record [needed "oldUri" text, needed "newUri" text]))]

def documentRequests : List (String × Shape) :=
  [("textDocument/documentLink", ofDocument []), ("textDocument/codeLens", ofDocument []),
   ("textDocument/foldingRange", ofDocument []), ("textDocument/documentSymbol", ofDocument []),
   ("textDocument/documentColor", ofDocument []), ("textDocument/semanticTokens/full", ofDocument []),
   ("textDocument/semanticTokens/full/delta", ofDocument [needed "previousResultId" text]),
   ("textDocument/semanticTokens/range", ofDocument [needed "range" range]),
   ("textDocument/selectionRange", ofDocument [needed "positions" (list position)]),
   ("textDocument/inlineValue", flat (reported ++ [needed "textDocument" textDocument,
     needed "range" range,
     needed "context" (record [needed "frameId" int32, needed "stoppedLocation" range])])),
   ("textDocument/inlayHint",
     flat (reported ++ [needed "textDocument" textDocument, needed "range" range])),
   ("textDocument/diagnostic", ofDocument [maybe "identifier" text, maybe "previousResultId" text]),
   ("textDocument/codeAction", ofDocument [needed "range" range, needed "context" codeActionContext]),
   ("textDocument/colorPresentation", ofDocument [needed "color" color, needed "range" range]),
   ("textDocument/formatting", flat ([needed "textDocument" textDocument,
     needed "options" layoutOptions] ++ reported)),
   ("textDocument/rangeFormatting", flat ([needed "textDocument" textDocument, needed "range" range,
     needed "options" layoutOptions] ++ reported)),
   ("textDocument/willSaveWaitUntil",
     record [needed "textDocument" textDocument, needed "reason" int32])]

def placeRequests : List (String × Shape) :=
  [("textDocument/declaration", ofPlace []), ("textDocument/definition", ofPlace []),
   ("textDocument/typeDefinition", ofPlace []), ("textDocument/implementation", ofPlace []),
   ("textDocument/documentHighlight", ofPlace []), ("textDocument/moniker", ofPlace []),
   ("textDocument/references",
     ofPlace [needed "context" (record [needed "includeDeclaration" flag])]),
   ("textDocument/prepareCallHierarchy", flat (placeFields ++ reported)),
   ("textDocument/prepareTypeHierarchy", flat (placeFields ++ reported)),
   ("textDocument/linkedEditingRange", flat (placeFields ++ reported)),
   ("textDocument/prepareRename", record placeFields),
   ("textDocument/rename", flat (placeFields ++ [needed "newName" text] ++ reported)),
   ("textDocument/signatureHelp", flat (maybe "context" signatureHelpContext :: placeFields ++ reported)),
   ("textDocument/onTypeFormatting",
     flat (placeFields ++ [needed "ch" text, needed "options" layoutOptions]))]

def itemRequests : List (String × Shape) :=
  [("callHierarchy/incomingCalls", flat (needed "item" callHierarchyItem :: divided)),
   ("callHierarchy/outgoingCalls", flat (needed "item" callHierarchyItem :: divided)),
   ("typeHierarchy/supertypes", flat (needed "item" typeHierarchyItem :: divided)),
   ("typeHierarchy/subtypes", flat (needed "item" typeHierarchyItem :: divided)),
   ("documentLink/resolve", documentLink), ("codeLens/resolve", codeLens),
   ("inlayHint/resolve", inlayHint), ("codeAction/resolve", codeAction),
   ("workspaceSymbol/resolve", workspaceSymbol)]

def workspaceRequests : List (String × Shape) :=
  [("workspace/diagnostic", flat ([maybe "identifier" text,
     needed "previousResultIds" (list (record [needed "uri" url, needed "value" text]))] ++ divided)),
   ("workspace/symbol", flat (divided ++ [needed "query" text])),
   ("workspace/executeCommand", flat ([needed "command" text, omissible "arguments" (list any)] ++ reported)),
   ("workspace/willCreateFiles", fileParams), ("workspace/willRenameFiles", fileRenameParams),
   ("workspace/willDeleteFiles", fileParams)]

def unoffered : List (String × Shape) :=
  documentRequests ++ placeRequests ++ itemRequests ++ workspaceRequests

end TagTooltips.Shape
