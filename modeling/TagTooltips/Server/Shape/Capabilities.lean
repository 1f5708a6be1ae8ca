import TagTooltips.Server.Shape.Document

/-! Shapes of what a client tells of itself when it starts a server. -/

namespace TagTooltips.Shape

def dynamic (others : Layout) : Shape := record (maybe "dynamicRegistration" flag :: others)

def refreshable : Shape := record [maybe "refreshSupport" flag]

def codes : Shape := record [maybe "valueSet" (list int32)]

def neededCodes : Shape := record [needed "valueSet" (list int32)]

def tagSupport : String × Presence × Shape :=
  omissible "tagSupport" (either nothing (either flag neededCodes))

def resolveSupport : Shape := record [needed "properties" (list text)]

def workspaceEditSupport : Shape := record
  [maybe "documentChanges" flag,
   maybe "resourceOperations" (list (word ["create", "rename", "delete"])),
   maybe "failureHandling" (word ["abort", "transactional", "textOnlyTransactional", "undo"]),
   maybe "normalizesLineEndings" flag,
   maybe "changeAnnotationSupport" (record [maybe "groupsOnLabel" flag])]

def workspaceSymbolSupport : Shape := dynamic
  [maybe "symbolKind" codes, tagSupport, maybe "resolveSupport" resolveSupport]

def fileOperationSupport : Shape := dynamic
  [maybe "didCreate" flag, maybe "willCreate" flag, maybe "didRename" flag, maybe "willRename" flag,
   maybe "didDelete" flag, maybe "willDelete" flag]

def workspaceSupport : Shape := record
  [maybe "applyEdit" flag, maybe "workspaceEdit" workspaceEditSupport,
   maybe "didChangeConfiguration" (dynamic []),
   maybe "didChangeWatchedFiles" (dynamic [maybe "relativePatternSupport" flag]),
   maybe "symbol" workspaceSymbolSupport, maybe "executeCommand" (dynamic []),
   maybe "workspaceFolders" flag, maybe "configuration" flag, maybe "semanticTokens" refreshable,
   maybe "codeLens" refreshable, maybe "fileOperations" fileOperationSupport,
   maybe "inlineValue" refreshable, maybe "inlayHint" refreshable, maybe "diagnostic" refreshable]

def synchronizationSupport : Shape := dynamic
  [maybe "willSave" flag, maybe "willSaveWaitUntil" flag, maybe "didSave" flag]

def completionItemSupport : Shape := record
  [maybe "snippetSupport" flag, maybe "commitCharactersSupport" flag,
   maybe "documentationFormat" (list markupKind), maybe "deprecatedSupport" flag,
   maybe "preselectSupport" flag, tagSupport, maybe "insertReplaceSupport" flag,
   maybe "resolveSupport" resolveSupport, maybe "insertTextModeSupport" neededCodes,
   maybe "labelDetailsSupport" flag]

def completionSupport : Shape := dynamic
  [maybe "completionItem" completionItemSupport, maybe "completionItemKind" codes,
   maybe "contextSupport" flag, maybe "insertTextMode" int32,
   maybe "completionList" (record [maybe "itemDefaults" (list text)])]

def signatureSupport : Shape := record
  [maybe "documentationFormat" (list markupKind),
   maybe "parameterInformation" (record [maybe "labelOffsetSupport" flag]),
   maybe "activeParameterSupport" flag]

def signatureHelpSupport : Shape := dynamic
  [maybe "signatureInformation" signatureSupport, maybe "contextSupport" flag]

def documentSymbolSupport : Shape := dynamic
  [maybe "symbolKind" codes, maybe "hierarchicalDocumentSymbolSupport" flag, tagSupport]

def linkSupport : Shape := dynamic [maybe "linkSupport" flag]

def codeActionLiteralSupport : Shape := record
  [needed "codeActionKind" (record [needed "valueSet" (list text)])]

def codeActionSupport : Shape := dynamic
  [maybe "codeActionLiteralSupport" codeActionLiteralSupport, maybe "isPreferredSupport" flag,
   maybe "disabledSupport" flag, maybe "dataSupport" flag, maybe "resolveSupport" resolveSupport,
   maybe "honorsChangeAnnotations" flag]

def renameSupport : Shape := dynamic
  [maybe "prepareSupport" flag, maybe "prepareSupportDefaultBehavior" int32,
   maybe "honorsChangeAnnotations" flag]

def diagnosticsSupport : Shape := record
  [maybe "relatedInformation" flag, tagSupport, maybe "versionSupport" flag,
   maybe "codeDescriptionSupport" flag, maybe "dataSupport" flag]

def foldingSupport : Shape := dynamic
  [maybe "rangeLimit" nat32, maybe "lineFoldingOnly" flag,
   maybe "foldingRangeKind" (record [maybe "valueSet" (list (word ["comment", "imports", "region"]))]),
   maybe "foldingRange" (record [maybe "collapsedText" flag])]

def semanticTokensRequests : Shape := record
  [maybe "range" flag, maybe "full" (either flag (flat [maybe "delta" flag]))]

def semanticTokensSupport : Shape := dynamic
  [needed "requests" semanticTokensRequests, needed "tokenTypes" (list text),
   needed "tokenModifiers" (list text), needed "formats" (list text),
   maybe "overlappingTokenSupport" flag, maybe "multilineTokenSupport" flag,
   maybe "serverCancelSupport" flag, maybe "augmentsSyntaxTokens" flag]

def documentSupport : Shape := record
  [maybe "synchronization" synchronizationSupport, maybe "completion" completionSupport,
   maybe "hover" (dynamic [maybe "contentFormat" (list markupKind)]),
   maybe "signatureHelp" signatureHelpSupport, maybe "references" (dynamic []),
   maybe "documentHighlight" (dynamic []), maybe "documentSymbol" documentSymbolSupport,
   maybe "formatting" (dynamic []), maybe "rangeFormatting" (dynamic []),
   maybe "onTypeFormatting" (dynamic []), maybe "declaration" linkSupport,
   maybe "definition" linkSupport, maybe "typeDefinition" linkSupport,
   maybe "implementation" linkSupport, maybe "codeAction" codeActionSupport,
   maybe "codeLens" (dynamic []), maybe "documentLink" (dynamic [maybe "tooltipSupport" flag]),
   maybe "colorProvider" (dynamic []), maybe "rename" renameSupport,
   maybe "publishDiagnostics" diagnosticsSupport, maybe "foldingRange" foldingSupport,
   maybe "selectionRange" (dynamic []), maybe "linkedEditingRange" (dynamic []),
   maybe "callHierarchy" (dynamic []), maybe "semanticTokens" semanticTokensSupport,
   maybe "moniker" (dynamic []), maybe "typeHierarchy" (dynamic []), maybe "inlineValue" (dynamic []),
   maybe "inlayHint" (dynamic [maybe "resolveSupport" resolveSupport]),
   maybe "diagnostic" (dynamic [maybe "relatedDocumentSupport" flag])]

def windowSupport : Shape := record
  [maybe "workDoneProgress" flag,
   maybe "showMessage" (record
     [maybe "messageActionItem" (record [maybe "additionalPropertiesSupport" flag])]),
   maybe "showDocument" (record [needed "support" flag])]

def generalSupport : Shape := record
  [maybe "regularExpressions" (record [needed "engine" text, maybe "version" text]),
   maybe "markdown" (record [needed "parser" text, maybe "version" text, maybe "allowedTags" (list text)]),
   maybe "staleRequestSupport" (record
     [needed "cancel" flag, needed "retryOnContentModified" (list text)]),
   maybe "positionEncodings" (list text)]

def capabilities : Shape := record
  [maybe "workspace" workspaceSupport, maybe "textDocument" documentSupport,
   maybe "window" windowSupport, maybe "general" generalSupport, maybe "experimental" any]

end TagTooltips.Shape
