import BasicWorkbench.Analyzers
import BasicWorkbench.Compilations
import BasicWorkbench.ValueShapes

namespace BasicWorkbench

def Path.ofValue : Json → Except Fault Path
  | .str s => .ok (.ofText s)
  | other => .error (.noPath other.kindWord)

def ExitStatus.ofValue (v : Json) : ExitStatus := ⟨v.equalWhole? == some 0, v.words⟩

/-- The limit that a value gives. A value that is no number cannot be compared with one, and a list is
not cut at a fraction; below zero every number means the same. -/
def limitOfValue : Json → Except Fault Int
  | .int i => .ok i
  | .bool b => .ok (if b then 1 else 0)
  | .real x => if x.isPositive then .error .fractionalLimit else .ok 0
  | other => .error (.uncountableLimit other.kindWord)

/-- Settings that nobody checked: values of any kind. -/
structure GivenSettings where
  compilerPath : Json
  maxProblems : Json
  autoParentheses : Json
  deriving Repr

namespace GivenSettings

/-- The settings for looking at a document, where no compiler is started. A limit that cannot be used
shows nothing. -/
def forDocuments (g : GivenSettings) : Settings where
  compilerPath := Settings.initial.compilerPath
  maxProblems := (limitOfValue g.maxProblems).toOption.getD 0
  autoParentheses := g.autoParentheses.isGiven

def forCompiling (g : GivenSettings) : Except Fault Settings :=
  match g.compilerPath with
  | .str path => .ok { g.forDocuments with compilerPath := path }
  | other => .error (.noPath other.kindWord)

def analyze (g : GivenSettings) (a : Analyzer) : Except Fault Analyzer := do
  let _ ← limitOfValue g.maxProblems
  .ok a.analyze

end GivenSettings

end BasicWorkbench
