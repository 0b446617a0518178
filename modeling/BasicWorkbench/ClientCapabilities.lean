import BasicWorkbench.ValueShapes

namespace BasicWorkbench

namespace ValueShape

def flags (names : List Text) : List MemberShape := names.map fun name => .may name flag

def flagsOnly (names : List Text) : ValueShape := object (flags names)

def valueSet (item : ValueShape) : ValueShape := object [.must "valueSet" (listOf item)]

def lazyProperties : ValueShape := object [.must "properties" (listOf text)]

def markupKinds : ValueShape := listOf (oneOf ["plaintext", "markdown"])

def symbolKinds : ValueShape := object [.may "valueSet" (listOf (oneUpTo 26))]

def workspaceCapabilities : ValueShape :=
  object (flags ["applyEdit", "workspaceFolders", "configuration"] ++ [
    .may "workspaceEdit" (object (flags ["documentChanges", "normalizesLineEndings", "metadataSupport",
        "snippetEditSupport"] ++ [
      .may "resourceOperations" (listOf (oneOf ["create", "rename", "delete"])),
      .may "failureHandling" (oneOf ["abort", "transactional", "textOnlyTransactional", "undo"]),
      .may "changeAnnotationSupport" (flagsOnly ["groupsOnLabel"])])),
    .may "didChangeConfiguration" (flagsOnly ["dynamicRegistration"]),
    .may "didChangeWatchedFiles" (flagsOnly ["dynamicRegistration", "relativePatternSupport"]),
    .may "symbol" (object (flags ["dynamicRegistration"] ++ [
      .may "symbolKind" symbolKinds,
      .may "tagSupport" (valueSet (oneUpTo 1)),
      .may "resolveSupport" lazyProperties])),
    .may "executeCommand" (flagsOnly ["dynamicRegistration"]),
    .may "semanticTokens" (flagsOnly ["refreshSupport"]),
    .may "codeLens" (flagsOnly ["refreshSupport"]),
    .may "fileOperations" (flagsOnly ["dynamicRegistration", "didCreate", "willCreate", "didRename",
      "willRename", "didDelete", "willDelete"]),
    .may "inlineValue" (flagsOnly ["refreshSupport"]),
    .may "inlayHint" (flagsOnly ["refreshSupport"]),
    .may "diagnostics" (flagsOnly ["refreshSupport"]),
    .may "foldingRange" (flagsOnly ["refreshSupport"]),
    .may "textDocumentContent" (flagsOnly ["dynamicRegistration"])])

def completionCapabilities : ValueShape :=
  object (flags ["dynamicRegistration", "contextSupport"] ++ [
    .may "completionItem" (object (flags ["snippetSupport", "commitCharactersSupport", "deprecatedSupport",
        "preselectSupport", "insertReplaceSupport", "labelDetailsSupport"] ++ [
      .may "documentationFormat" markupKinds,
      .may "tagSupport" (valueSet (oneUpTo 1)),
      .may "resolveSupport" lazyProperties,
      .may "insertTextModeSupport" (valueSet (oneUpTo 2))])),
    .may "completionItemKind" (object [.may "valueSet" (listOf single)]),
    .may "insertTextMode" (oneUpTo 2),
    .may "completionList" (object (flags ["applyKindSupport"] ++ [.may "itemDefaults" (listOf text)]))])

def tokenCapabilities : ValueShape :=
  object (flags ["dynamicRegistration", "overlappingTokenSupport", "multilineTokenSupport",
      "serverCancelSupport", "augmentsSyntaxTokens"] ++ [
    .must "requests" (object [
      .may "range" (plainOr (object [])),
      .may "full" (plainOr (flagsOnly ["delta"]))]),
    .must "tokenTypes" (listOf text),
    .must "tokenModifiers" (listOf text),
    .must "formats" (listOf (oneOf ["relative"]))])

def diagnosticMembers : List MemberShape :=
  flags ["relatedInformation", "codeDescriptionSupport", "dataSupport"] ++
    [.may "tagSupport" (valueSet (oneUpTo 2))]

def documentCapabilities : ValueShape :=
  let registered : ValueShape := flagsOnly ["dynamicRegistration"]
  let linked : ValueShape := flagsOnly ["dynamicRegistration", "linkSupport"]
  object [
    .may "synchronization" (flagsOnly ["dynamicRegistration", "willSave", "willSaveWaitUntil", "didSave"]),
    .may "filters" (flagsOnly ["relativePatternSupport"]),
    .may "completion" completionCapabilities,
    .may "hover" (object (flags ["dynamicRegistration"] ++ [.may "contentFormat" markupKinds])),
    .may "signatureHelp" (object (flags ["dynamicRegistration", "contextSupport"] ++ [
      .may "signatureInformation" (object (flags ["activeParameterSupport", "noActiveParameterSupport"] ++ [
        .may "documentationFormat" markupKinds,
        .may "parameterInformation" (flagsOnly ["labelOffsetSupport"])]))])),
    .may "declaration" linked,
    .may "definition" linked,
    .may "typeDefinition" linked,
    .may "implementation" linked,
    .may "references" registered,
    .may "documentHighlight" registered,
    .may "documentSymbol" (object (flags ["dynamicRegistration", "hierarchicalDocumentSymbolSupport",
        "labelSupport"] ++ [
      .may "symbolKind" symbolKinds,
      .may "tagSupport" (valueSet (oneUpTo 1))])),
    .may "codeAction" (object (flags ["dynamicRegistration", "isPreferredSupport", "disabledSupport",
        "dataSupport", "honorsChangeAnnotations", "documentationSupport"] ++ [
      .may "codeActionLiteralSupport" (object [.must "codeActionKind" (valueSet single)]),
      .may "resolveSupport" lazyProperties,
      .may "tagSupport" (valueSet (oneUpTo 1))])),
    .may "codeLens" (object (flags ["dynamicRegistration"] ++ [.may "resolveSupport" lazyProperties])),
    .may "documentLink" (flagsOnly ["dynamicRegistration", "tooltipSupport"]),
    .may "colorProvider" registered,
    .may "formatting" registered,
    .may "rangeFormatting" (flagsOnly ["dynamicRegistration", "rangesSupport"]),
    .may "onTypeFormatting" registered,
    .may "rename" (object (flags ["dynamicRegistration", "prepareSupport", "honorsChangeAnnotations"] ++ [
      .may "prepareSupportDefaultBehavior" (oneUpTo 1)])),
    .may "foldingRange" (object (flags ["dynamicRegistration", "lineFoldingOnly"] ++ [
      .may "rangeLimit" count,
      .may "foldingRangeKind" (object [.may "valueSet" (listOf single)]),
      .may "foldingRange" (flagsOnly ["collapsedText"])])),
    .may "selectionRange" registered,
    .may "publishDiagnostics" (object (flags ["versionSupport"] ++ diagnosticMembers)),
    .may "callHierarchy" registered,
    .may "semanticTokens" tokenCapabilities,
    .may "linkedEditingRange" registered,
    .may "moniker" registered,
    .may "typeHierarchy" registered,
    .may "inlineValue" registered,
    .may "inlayHint" (object (flags ["dynamicRegistration"] ++ [.may "resolveSupport" lazyProperties])),
    .may "diagnostic" (object (flags ["dynamicRegistration", "relatedDocumentSupport",
      "markupMessageSupport"] ++ diagnosticMembers)),
    .may "inlineCompletion" registered]

def generalCapabilities : ValueShape :=
  object [
    .may "staleRequestSupport" (object [
      .must "cancel" flag,
      .must "retryOnContentModified" (listOf text)]),
    .may "regularExpressions" (object [.must "engine" anything, .may "version" text]),
    .may "markdown" (object [.must "parser" text, .may "version" text, .may "allowedTags" (listOf text)]),
    .may "positionEncodings" (listOf single)]

def clientCapabilities : ValueShape :=
  object [
    .may "workspace" workspaceCapabilities,
    .may "textDocument" documentCapabilities,
    .may "notebookDocument" (object [
      .must "synchronization" (flagsOnly ["dynamicRegistration", "executionSummarySupport"])]),
    .may "window" (object (flags ["workDoneProgress"] ++ [
      .may "showMessage" (object [
        .may "messageActionItem" (flagsOnly ["additionalPropertiesSupport"])]),
      .may "showDocument" (object [.must "support" flag])])),
    .may "general" generalCapabilities,
    .may "experimental" anything]

end ValueShape

end BasicWorkbench
