import TagTooltips.Server.Shape.Basic

/-! Shapes of what messages speak about: places in documents, edits, items and diagnostics. -/

namespace TagTooltips.Shape

def position : Shape := record [needed "line" nat32, needed "character" nat32]

def range : Shape := record [needed "start" position, needed "end" position]

def location : Shape := record [needed "uri" url, needed "range" range]

def textEdit : Shape := record [needed "range" range, needed "newText" text]

def insertReplaceEdit : Shape :=
  record [needed "newText" text, needed "insert" range, needed "replace" range]

def command : Shape :=
  record [needed "title" text, needed "command" text, maybe "arguments" (list any)]

def markupKind : Shape := word ["plaintext", "markdown"]

def markup : Shape := record [needed "kind" markupKind, needed "value" text]

def documentation : Shape := either text markup

def token : Shape := either int32 text

def textDocument : Shape := record [needed "uri" url]

def versionedDocument : Shape := record [needed "uri" url, needed "version" int32]

def documentItem : Shape := record
  [needed "uri" url, needed "languageId" text, needed "version" int32, needed "text" text]

def contentChange : Shape :=
  record [maybe "range" range, maybe "rangeLength" nat32, needed "text" text]

def labelDetails : Shape := record [maybe "detail" text, maybe "description" text]

def completionItem : Shape := record
  [needed "label" text, maybe "labelDetails" labelDetails, maybe "kind" int32, maybe "detail" text,
   maybe "documentation" documentation, maybe "deprecated" flag, maybe "preselect" flag,
   maybe "sortText" text, maybe "filterText" text, maybe "insertText" text,
   maybe "insertTextFormat" int32, maybe "insertTextMode" int32,
   maybe "textEdit" (either textEdit insertReplaceEdit), maybe "additionalTextEdits" (list textEdit),
   maybe "command" command, maybe "commitCharacters" (list text), maybe "data" any,
   maybe "tags" (list int32)]

def relatedInformation : Shape := record [needed "location" location, needed "message" text]

def diagnostic : Shape := record
  [needed "range" range, maybe "severity" int32, maybe "code" (either int32 text),
   maybe "codeDescription" (record [needed "href" url]), maybe "source" text, needed "message" text,
   maybe "relatedInformation" (list relatedInformation), maybe "tags" (list int32), maybe "data" any]

def documentEdit : Shape := record
  [needed "textDocument" (record [needed "uri" url, maybe "version" int32]),
   needed "edits" (list textEdit)]

def overwriteOptions : Shape := record [maybe "overwrite" flag, maybe "ignoreIfExists" flag]

def deleteOptions : Shape :=
  record [maybe "recursive" flag, maybe "ignoreIfNotExists" flag, maybe "annotationId" text]

def fileOperation : Shape := tagged "kind"
  [("create", record [needed "uri" url, maybe "options" overwriteOptions, maybe "annotationId" text]),
   ("rename", record [needed "oldUri" url, needed "newUri" url, maybe "options" overwriteOptions,
     maybe "annotationId" text]),
   ("delete", record [needed "uri" url, maybe "options" deleteOptions])]

def changeAnnotation : Shape := record
  [needed "label" text, maybe "needsConfirmation" flag, maybe "description" text]

def workspaceEdit : Shape := record
  [maybe "changes" (mapping url (list textEdit)),
   maybe "documentChanges" (list (either fileOperation documentEdit)),
   maybe "changeAnnotations" (mapping text changeAnnotation)]

def callHierarchyItem : Shape := record
  [needed "name" text, needed "kind" int32, maybe "tags" (list int32), maybe "detail" text,
   needed "uri" url, needed "range" range, needed "selectionRange" range, maybe "data" any]

def typeHierarchyItem : Shape := record
  [needed "name" text, needed "kind" int32, maybe "tags" int32, maybe "detail" text,
   needed "uri" url, needed "range" range, needed "selectionRange" range, maybe "data" any]

def inlayLabelPart : Shape := record
  [needed "value" text, maybe "tooltip" documentation, maybe "location" location, maybe "command" command]

def inlayHint : Shape := record
  [needed "position" position, needed "label" (either text (list inlayLabelPart)), maybe "kind" int32,
   maybe "textEdits" (list textEdit), maybe "tooltip" documentation, maybe "paddingLeft" flag,
   maybe "paddingRight" flag, maybe "data" any]

def codeAction : Shape := record
  [needed "title" text, maybe "kind" text, maybe "diagnostics" (list diagnostic),
   maybe "edit" workspaceEdit, maybe "command" command, maybe "isPreferred" flag,
   maybe "disabled" (record [needed "reason" text]), maybe "data" any]

def codeLens : Shape := record [needed "range" range, maybe "command" command, maybe "data" any]

def documentLink : Shape := record
  [needed "range" range, maybe "target" url, maybe "tooltip" text, maybe "data" any]

def workspaceSymbol : Shape := record
  [needed "name" text, needed "kind" int32, maybe "tags" (list int32), maybe "containerName" text,
   needed "location" (either location (record [needed "uri" url])), maybe "data" any]

def color : Shape := record
  [needed "red" number, needed "green" number, needed "blue" number, needed "alpha" number]

/-- How text is to be laid out; members of other names are settings of a formatter. -/
def layoutOptions : Shape := extended
  [needed "tabSize" nat32, needed "insertSpaces" flag, maybe "trimTrailingWhitespace" flag,
   maybe "insertFinalNewline" flag, maybe "trimFinalNewlines" flag]
  (either flag (either int32 text))

def parameterInformation : Shape := record
  [needed "label" (either text (pair nat32 nat32)), maybe "documentation" documentation]

def signatureInformation : Shape := record
  [needed "label" text, maybe "documentation" documentation,
   maybe "parameters" (list parameterInformation), maybe "activeParameter" nat32]

def signatureHelp : Shape := record
  [needed "signatures" (list signatureInformation), maybe "activeSignature" nat32,
   maybe "activeParameter" nat32]

end TagTooltips.Shape
