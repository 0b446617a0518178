import BasicWorkbench.Completions

namespace BasicWorkbench

/-- The session of one document: its lines and what the last analysis found in them. -/
structure Analyzer where
  settings : Settings
  lines : List Text
  symbols : SymbolTable
  diagnostics : List Diagnostic
  deriving DecidableEq, Repr

namespace Analyzer

def ofSource (settings : Settings) (source : Text) : Analyzer :=
  ⟨settings, editorLines source, .empty, []⟩

def analyze (a : Analyzer) : Analyzer :=
  { a with
    symbols := SymbolTable.empty.collect a.lines
    diagnostics := limitDiagnostics a.settings.maxProblems (blockDiagnostics a.lines) }

def lineBefore (a : Analyzer) (line character : Int) : Text :=
  if line < 0 then [] else ((a.lines[line.toNat]?).getD []).take character.toNat

def completions (a : Analyzer) (line character : Int) : List CompletionItem :=
  completionsAfter a.settings (a.lineBefore line character) a.symbols

def outline (a : Analyzer) : List Symbol := a.symbols.symbols

end Analyzer

def analysis (settings : Settings) (source : Text) : Analyzer :=
  (Analyzer.ofSource settings source).analyze

end BasicWorkbench
