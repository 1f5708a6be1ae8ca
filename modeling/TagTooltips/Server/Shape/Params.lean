import TagTooltips.Server.Shape.Capabilities

/-! Shapes of the parameters of the messages that are acted upon. -/

namespace TagTooltips.Shape

def placeFields : Layout := [needed "textDocument" textDocument, needed "position" position]

def reported : Layout := [maybe "workDoneToken" token]

def divided : Layout := reported ++ [maybe "partialResultToken" token]

def hoverParams : Shape := flat (placeFields ++ reported)

def completionContext : Shape := record [needed "triggerKind" int32, maybe "triggerCharacter" text]

def completionParams : Shape := flat (placeFields ++ divided ++ [maybe "context" completionContext])

def openParams : Shape := record [needed "textDocument" documentItem]

def changeParams : Shape :=
  record [needed "textDocument" versionedDocument, needed "contentChanges" (list contentChange)]

def closeParams : Shape := record [needed "textDocument" textDocument]

def workspaceFolder : Shape := record [needed "uri" url, needed "name" text]

def clientInfo : Shape := record [needed "name" text, maybe "version" text]

def startParams : Shape := record
  [maybe "processId" nat32, maybe "rootPath" text, maybe "rootUri" url,
   maybe "initializationOptions" any, needed "capabilities" capabilities,
   maybe "trace" (word ["off", "messages", "verbose"]),
   maybe "workspaceFolders" (list workspaceFolder), maybe "clientInfo" clientInfo,
   maybe "locale" text]

end TagTooltips.Shape
