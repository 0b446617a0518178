import BasicWorkbench.GivenValues
import BasicWorkbench.Main
import BasicWorkbench.MessageReading
import BasicWorkbench.Compilations
import BasicWorkbench.Servers
import BasicWorkbench.Proofs.ServerEvents
import BasicWorkbench.Proofs.ServerSteps
import BasicWorkbench.Proofs.StepFrames
import BasicWorkbench.Proofs.PublicationLimits
import BasicWorkbench.Proofs.RunReports
import BasicWorkbench.Proofs.AnalyzerCaches
import BasicWorkbench.Proofs.CompileProvenance
import BasicWorkbench.Proofs.EditorSessions
import BasicWorkbench.Proofs.ViewCoherence
import BasicWorkbench.Proofs.TextMatches
import BasicWorkbench.Proofs.ZeroSummaries
import BasicWorkbench.Proofs.WrittenLines
import BasicWorkbench.Proofs.ReportReading
import BasicWorkbench.Proofs.DetailedReports
import BasicWorkbench.Proofs.BlockScans
import BasicWorkbench.Proofs.Utf8Reading
import BasicWorkbench.Proofs.CheckedSources
import BasicWorkbench.Proofs.OutlineAgreement
import BasicWorkbench.Proofs.CaseBlindAnalysis
import BasicWorkbench.Proofs.DocumentFrames
import BasicWorkbench.Proofs.OpenDocuments
import BasicWorkbench.Proofs.DocumentTurns
import BasicWorkbench.Proofs.DocumentIsolation
import BasicWorkbench.Proofs.RealPositions
import BasicWorkbench.Proofs.SharedVerdicts
import BasicWorkbench.Proofs.ProgramStarts
import BasicWorkbench.Proofs.CommandEndings
import BasicWorkbench.Proofs.SymbolHistories
import BasicWorkbench.Proofs.SymbolObjects
import BasicWorkbench.Proofs.AnalyzerCalls
import BasicWorkbench.Proofs.PlainScans
import BasicWorkbench.Proofs.HeldDocuments
import BasicWorkbench.Proofs.CursorColumns
import BasicWorkbench.Proofs.BlockEvents
import BasicWorkbench.Proofs.OpenerLists
import BasicWorkbench.Proofs.BlockMatching
import BasicWorkbench.Proofs.SubroutinePairs
import BasicWorkbench.Proofs.CollectedSymbols
import BasicWorkbench.Proofs.JoinedScans
import BasicWorkbench.Proofs.SubroutineHeaders
import BasicWorkbench.Proofs.DetailLines
import BasicWorkbench.Proofs.ErrorPlaces
import BasicWorkbench.Proofs.CleanMessages
import BasicWorkbench.Proofs.HintedReports
import BasicWorkbench.Proofs.ThenHints
import BasicWorkbench.Proofs.StringHints
import BasicWorkbench.Proofs.CleanSuccesses
import BasicWorkbench.Proofs.OfferedItems
import BasicWorkbench.Proofs.ObjectFields
import BasicWorkbench.Proofs.ResolvedItems
import BasicWorkbench.Proofs.SettingFields
import BasicWorkbench.Proofs.UntypedData
import BasicWorkbench.Proofs.LineBreaks
import BasicWorkbench.Proofs.SurroundedSummaries
import BasicWorkbench.Proofs.LiteralForms
import BasicWorkbench.Proofs.TrailingBlanks
import BasicWorkbench.Proofs.ThinnedHistories
import BasicWorkbench.Proofs.TrimmedDocuments
