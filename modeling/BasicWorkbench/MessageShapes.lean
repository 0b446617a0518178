import BasicWorkbench.ClientCapabilities
import BasicWorkbench.ItemFields

namespace BasicWorkbench

namespace ValueShape

def documentName : ValueShape := object [.must "uri" text]

def documentVersion : ValueShape := object [.must "uri" text, .must "version" integer]

def openedDocument : ValueShape :=
  object [.must "uri" text, .must "languageId" single, .must "version" integer, .must "text" text]

def contentChange : ValueShape :=
  byMember "range" (object [.must "range" range, .may "rangeLength" count, .must "text" text])
    (object [.must "text" text])

def folder : ValueShape := object [.must "uri" text, .must "name" text]

def aboutDocument (more : List MemberShape) : ValueShape :=
  object (.must "textDocument" documentName :: .may "workDoneToken" anything ::
    .may "partialResultToken" anything :: more)

def introduction : ValueShape :=
  object [
    .must "capabilities" clientCapabilities,
    .may "processId" whole,
    .may "clientInfo" (object [.must "name" text, .may "version" text]),
    .may "locale" text,
    .may "rootPath" text,
    .may "rootUri" text,
    .may "initializationOptions" anything,
    .may "trace" (oneOf ["off", "messages", "verbose"]),
    .may "workspaceFolders" (listOf folder),
    .may "workDoneToken" anything]

def cell : ValueShape :=
  object [
    .must "kind" (oneUpTo 2),
    .must "document" text,
    .may "metadata" anything,
    .may "executionSummary" (object [.must "executionOrder" count, .may "success" flag])]

def openedNotebook : ValueShape :=
  object [
    .must "notebookDocument" (object [
      .must "uri" text,
      .must "notebookType" text,
      .must "version" integer,
      .may "metadata" anything,
      .must "cells" (listOf cell)]),
    .must "cellTextDocuments" (listOf openedDocument)]

def changedNotebook : ValueShape :=
  object [
    .must "notebookDocument" documentVersion,
    .must "change" (object [
      .may "metadata" anything,
      .may "cells" (object [
        .may "structure" (object [
          .must "array" (object [.must "start" count, .must "deleteCount" count, .may "cells" (listOf cell)]),
          .may "didOpen" (listOf openedDocument),
          .may "didClose" (listOf documentName)]),
        .may "data" (listOf cell),
        .may "textContent" (listOf (object [
          .must "document" documentVersion,
          .must "changes" (listOf contentChange)]))])])]

def finding : ValueShape :=
  object [
    .must "range" range,
    .must "message" text,
    .may "severity" (oneUpTo 4),
    .may "code" anything,
    .may "codeDescription" (object [.must "href" text]),
    .may "source" text,
    .may "tags" (listOf (oneUpTo 2)),
    .may "relatedInformation" (listOf (object [
      .must "location" (object [.must "uri" text, .must "range" range]),
      .must "message" text])),
    .may "data" anything]

def notice : ValueShape := object [.must "type" (oneUpTo 5), .must "message" text]

def fileNews (names : List Text) : ValueShape :=
  object [.must "files" (listOf (object (names.map fun name => .must name text)))]

def ofMethods : List (Text × ValueShape) := [
  ("initialize", introduction),
  ("initialized", object []),
  ("textDocument/didOpen", object [.must "textDocument" openedDocument]),
  ("textDocument/didChange",
    object [.must "textDocument" documentVersion, .must "contentChanges" (listOf contentChange)]),
  ("textDocument/didSave", object [.must "textDocument" documentName, .may "text" text]),
  ("textDocument/didClose", object [.must "textDocument" documentName]),
  ("textDocument/willSave", object [.must "textDocument" documentName, .must "reason" (oneUpTo 3)]),
  ("textDocument/publishDiagnostics",
    object [.must "uri" text, .must "diagnostics" (listOf finding), .may "version" integer]),
  ("textDocument/completion",
    aboutDocument [
      .must "position" position,
      .may "context" (object [.must "triggerKind" (oneUpTo 3), .may "triggerCharacter" text])]),
  ("completionItem/resolve", completionItem),
  ("textDocument/documentSymbol", aboutDocument []),
  ("workspace/executeCommand",
    object [.must "command" text, .may "arguments" (listOf anything), .may "workDoneToken" anything]),
  ("workspace/didChangeConfiguration", object [.must "settings" anything]),
  ("workspace/didChangeWorkspaceFolders",
    object [.must "event" (object [.must "added" (listOf folder), .must "removed" (listOf folder)])]),
  ("workspace/didChangeWatchedFiles",
    object [.must "changes" (listOf (object [.must "uri" text, .must "type" (oneUpTo 3)]))]),
  ("workspace/didCreateFiles", fileNews ["uri"]),
  ("workspace/didRenameFiles", fileNews ["oldUri", "newUri"]),
  ("workspace/didDeleteFiles", fileNews ["uri"]),
  ("notebookDocument/didOpen", openedNotebook),
  ("notebookDocument/didChange", changedNotebook),
  ("notebookDocument/didSave", object [.must "notebookDocument" documentName]),
  ("notebookDocument/didClose",
    object [.must "notebookDocument" documentName, .must "cellTextDocuments" (listOf documentName)]),
  ("window/showMessage", notice),
  ("window/logMessage", notice),
  ("window/workDoneProgress/cancel", object [.must "token" anything]),
  ("$/progress", object [.must "token" anything, .must "value" anything]),
  ("$/cancelRequest", object [.must "id" anything]),
  ("$/logTrace", object [.must "message" text, .may "verbose" text]),
  ("telemetry/event", anything),
  ("$/setTrace", object [.must "value" (oneOf ["off", "messages", "verbose"])])]

end ValueShape

def unservedRequests : List Text := List.map String.toList [
  "callHierarchy/incomingCalls", "callHierarchy/outgoingCalls", "codeAction/resolve", "codeLens/resolve",
  "documentLink/resolve", "inlayHint/resolve", "textDocument/codeAction", "textDocument/codeLens",
  "textDocument/colorPresentation", "textDocument/declaration", "textDocument/definition",
  "textDocument/diagnostic", "textDocument/documentColor", "textDocument/documentHighlight",
  "textDocument/documentLink", "textDocument/foldingRange", "textDocument/formatting",
  "textDocument/hover", "textDocument/implementation", "textDocument/inlayHint",
  "textDocument/inlineCompletion", "textDocument/inlineValue", "textDocument/linkedEditingRange",
  "textDocument/moniker", "textDocument/onTypeFormatting", "textDocument/prepareCallHierarchy",
  "textDocument/prepareRename", "textDocument/prepareTypeHierarchy", "textDocument/rangeFormatting",
  "textDocument/rangesFormatting", "textDocument/references", "textDocument/rename",
  "textDocument/selectionRange", "textDocument/semanticTokens/full",
  "textDocument/semanticTokens/full/delta", "textDocument/semanticTokens/range",
  "textDocument/signatureHelp", "textDocument/typeDefinition", "textDocument/willSaveWaitUntil",
  "typeHierarchy/subtypes", "typeHierarchy/supertypes", "workspace/diagnostic", "workspace/symbol",
  "workspace/textDocumentContent", "workspace/willCreateFiles", "workspace/willDeleteFiles",
  "workspace/willRenameFiles", "workspaceSymbol/resolve"]

def serverRequests : List Text := [
  "client/registerCapability", "client/unregisterCapability", "window/showDocument",
  "window/showMessageRequest", "window/workDoneProgress/create", "workspace/applyEdit",
  "workspace/codeLens/refresh", "workspace/configuration", "workspace/diagnostic/refresh",
  "workspace/foldingRange/refresh", "workspace/inlayHint/refresh", "workspace/inlineValue/refresh",
  "workspace/semanticTokens/refresh", "workspace/textDocumentContent/refresh",
  "workspace/workspaceFolders"]

end BasicWorkbench
