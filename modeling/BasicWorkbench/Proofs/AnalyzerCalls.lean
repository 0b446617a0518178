import BasicWorkbench.Analyzers
import BasicWorkbench.Proofs.SymbolObjects

namespace BasicWorkbench

inductive AnalyzerCall where
  | analyze
  | replaceLines (lines : List Text)
  | completions (line character : Int)
  | outline
  deriving DecidableEq, Repr

inductive AnalyzerAnswer where
  | done
  | items (items : List CompletionItem)
  | symbols (symbols : List Symbol)

namespace AnalyzerCall

def isQuery : AnalyzerCall → Bool
  | .completions .. => true
  | .outline => true
  | _ => false

def newLines? : AnalyzerCall → Option (List Text)
  | .replaceLines lines => some lines
  | _ => none

/-- The lines after calls: those that came in last, or the first ones. -/
def currentLines (first : List Text) (calls : List AnalyzerCall) : List Text :=
  (calls.reverse.findSome? newLines?).getD first

/-- The lines as they were when they were analyzed last. -/
def analyzedLines? (first : List Text) (calls : List AnalyzerCall) : Option (List Text) :=
  if .analyze ∈ calls then some (currentLines first (calls.rdropWhile (· ≠ .analyze))) else none

theorem currentLines_concat (first : List Text) (calls : List AnalyzerCall) (call : AnalyzerCall) :
    currentLines first (calls ++ [call]) = call.newLines?.getD (currentLines first calls) := by
  rw [currentLines, List.reverse_concat, List.findSome?_cons]
  cases call.newLines? <;> rfl

theorem analyzedLines?_concat (first : List Text) (calls : List AnalyzerCall) (call : AnalyzerCall) :
    analyzedLines? first (calls ++ [call]) =
      if call = .analyze then some (currentLines first calls) else analyzedLines? first calls := by
  unfold analyzedLines?
  by_cases last : call = .analyze
  · subst last
    have dropped : (calls ++ [AnalyzerCall.analyze]).rdropWhile (· ≠ .analyze) = calls ++ [.analyze] := by
      rw [List.rdropWhile_concat_neg _ _ _ (by simp)]
    rw [if_pos (by simp), if_pos rfl, dropped, currentLines_concat]
    rfl
  · have dropped : (calls ++ [call]).rdropWhile (· ≠ .analyze) = calls.rdropWhile (· ≠ .analyze) :=
      List.rdropWhile_concat_pos _ _ _ (by simpa using last)
    rw [if_neg last, dropped]
    simp [Ne.symm last]

end AnalyzerCall

/-- The session of a document whose symbols are objects of a table that every analysis fills again in place. -/
structure LiveAnalyzer where
  settings : Settings
  lines : List Text
  symbols : SymbolObjects
  diagnostics : List Diagnostic
  deriving DecidableEq, Repr

def Analyzer.ofLines (settings : Settings) (lines : List Text) : Analyzer := ⟨settings, lines, .empty, []⟩

def Analyzer.heed (a : Analyzer) : AnalyzerCall → Analyzer
  | .analyze => a.analyze
  | .replaceLines lines => { a with lines := lines }
  | .completions .. => a
  | .outline => a

namespace LiveAnalyzer

def ofSource (settings : Settings) (source : Text) : LiveAnalyzer := ⟨settings, editorLines source, .empty, []⟩

def shown (a : LiveAnalyzer) : Analyzer := ⟨a.settings, a.lines, a.symbols.table, a.diagnostics⟩

def analyze (a : LiveAnalyzer) : LiveAnalyzer :=
  { a with
    symbols := a.symbols.clear.collect a.lines
    diagnostics := limitDiagnostics a.settings.maxProblems (blockDiagnostics a.lines) }

def call (a : LiveAnalyzer) : AnalyzerCall → AnalyzerAnswer × LiveAnalyzer
  | .analyze => (.done, a.analyze)
  | .replaceLines lines => (.done, { a with lines := lines })
  | .completions line character => (.items (a.shown.completions line character), a)
  | .outline => (.symbols a.shown.outline, a)

def after (a : LiveAnalyzer) (calls : List AnalyzerCall) : LiveAnalyzer :=
  calls.foldl (fun a c => (a.call c).2) a

theorem shown_analyze (a : LiveAnalyzer) : a.analyze.shown = a.shown.analyze := by
  have filled := ((SymbolObjects.Shows.cleared a.symbols).collect a.lines).table_eq
  simp only [shown, analyze, Analyzer.analyze, filled]

theorem shown_call (a : LiveAnalyzer) (c : AnalyzerCall) : (a.call c).2.shown = a.shown.heed c := by
  cases c with
  | analyze => exact a.shown_analyze
  | replaceLines lines => rfl
  | completions line character => rfl
  | outline => rfl

theorem shown_after (a : LiveAnalyzer) (calls : List AnalyzerCall) :
    (a.after calls).shown = calls.foldl Analyzer.heed a.shown := by
  induction calls generalizing a with
  | nil => rfl
  | cons c calls ih => rw [List.foldl_cons, ← shown_call]; exact ih _

theorem after_queries (a : LiveAnalyzer) (calls : List AnalyzerCall) :
    a.after (calls.filter (·.isQuery)) = a := by
  induction calls with
  | nil => rfl
  | cons c calls ih =>
    rw [List.filter_cons]
    cases c with
    | analyze => exact ih
    | replaceLines lines => exact ih
    | completions line character => exact ih
    | outline => exact ih

end LiveAnalyzer

namespace Analyzer

/-- A session holds the lines that came in last, with the findings of the last analysis. -/
structure Follows (a : Analyzer) (settings : Settings) (first : List Text) (calls : List AnalyzerCall) : Prop where
  keeps : a.settings = settings
  holds : a.lines = AnalyzerCall.currentLines first calls
  found : (a.symbols, a.diagnostics) =
    match AnalyzerCall.analyzedLines? first calls with
    | some lines => ((ofLines settings lines).analyze.symbols, (ofLines settings lines).analyze.diagnostics)
    | none => (.empty, [])

theorem Follows.heed {a : Analyzer} {settings : Settings} {first : List Text} {calls : List AnalyzerCall}
    (follows : a.Follows settings first calls) (call : AnalyzerCall) :
    (a.heed call).Follows settings first (calls ++ [call]) := by
  constructor
  case keeps => cases call <;> exact follows.keeps
  case holds =>
    rw [AnalyzerCall.currentLines_concat, ← follows.holds]
    cases call <;> rfl
  case found =>
    rw [AnalyzerCall.analyzedLines?_concat, ← follows.holds]
    cases call with
    | analyze => rw [if_pos rfl, ← follows.keeps]; rfl
    | replaceLines lines => rw [if_neg (by simp)]; exact follows.found
    | completions line character => rw [if_neg (by simp)]; exact follows.found
    | outline => rw [if_neg (by simp)]; exact follows.found

theorem Follows.run (settings : Settings) (source : Text) (calls : List AnalyzerCall) :
    (calls.foldl Analyzer.heed (ofSource settings source)).Follows settings (editorLines source) calls := by
  induction calls using List.reverseRecOn with
  | nil => exact ⟨rfl, rfl, rfl⟩
  | append_singleton calls call ih =>
    rw [List.foldl_append]
    exact ih.heed call

end Analyzer

/-- An analysis replaces what was found before: whatever was called, the next analysis shows what a fresh session of
the current lines finds, until then the findings are those of the last one, and questions leave the session. -/
theorem analysis_replaces (settings : Settings) (source : Text) (calls : List AnalyzerCall) :
    let live := (LiveAnalyzer.ofSource settings source).after calls
    let fresh := fun lines => (Analyzer.ofLines settings lines).analyze
    live.shown = calls.foldl Analyzer.heed (.ofSource settings source) ∧
      live.analyze.shown = fresh (AnalyzerCall.currentLines (editorLines source) calls) ∧
      (live.shown.symbols, live.shown.diagnostics) =
        (match AnalyzerCall.analyzedLines? (editorLines source) calls with
        | some lines => ((fresh lines).symbols, (fresh lines).diagnostics)
        | none => (.empty, [])) ∧
      ∀ others : List AnalyzerCall,
        live.after (others.filter (·.isQuery)) = live ∧
          (live.analyze.after (others.filter (·.isQuery))).analyze.shown = live.analyze.shown := by
  intro live fresh
  have shown : live.shown = calls.foldl Analyzer.heed (.ofSource settings source) :=
    LiveAnalyzer.shown_after _ calls
  have follows := Analyzer.Follows.run settings source calls
  rw [← shown] at follows
  have analyzed : live.analyze.shown = fresh (AnalyzerCall.currentLines (editorLines source) calls) := by
    rw [LiveAnalyzer.shown_analyze, ← follows.holds]
    simp only [Analyzer.analyze, Analyzer.ofLines, fresh, follows.keeps]
  refine ⟨shown, analyzed, follows.found, fun others => ⟨live.after_queries others, ?_⟩⟩
  rw [LiveAnalyzer.after_queries, LiveAnalyzer.shown_analyze, analyzed]
  rfl

end BasicWorkbench
