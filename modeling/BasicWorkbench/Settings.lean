import BasicWorkbench.Faults
import BasicWorkbench.Json
import BasicWorkbench.OrderedMaps

namespace BasicWorkbench

abbrev Environment := OrderedMap Text

/-- What a user can set: where the compiler is, how many problems are shown for a document, and
whether completed calls get parentheses. -/
structure Settings where
  compilerPath : Text
  maxProblems : Int
  autoParentheses : Bool
  deriving DecidableEq, Repr

def Settings.initial : Settings where
  compilerPath := "C:\\Program Files (x86)\\Microsoft\\Small Basic\\SmallBasicCompiler.exe"
  maxProblems := 1000
  autoParentheses := true

def Settings.ofFields (fields : List (Text × Json)) : Settings where
  compilerPath :=
    match fieldOf fields "compilerPath" with
    | .str (c :: path) => c :: path
    | _ => Settings.initial.compilerPath
  maxProblems :=
    match fieldOf fields "maxNumberOfProblems" with
    | .int n => if 0 ≤ n then n else Settings.initial.maxProblems
    | _ => Settings.initial.maxProblems
  autoParentheses :=
    match fieldOf fields "enableAutoParentheses" with
    | .bool b => b
    | _ => Settings.initial.autoParentheses

/-- The settings of a configuration, which is the section itself or holds it under its name. A section
of another kind than an object means the initial settings. -/
def Settings.ofConfigurationFields (fields : List (Text × Json)) : Settings :=
  match fields.lookup ("smallBasic" : Text) with
  | some (.obj inner) => .ofFields inner
  | some _ => .initial
  | none => .ofFields fields

/-- The settings of a configuration of any kind. One that is no object is refused unless it is
empty. -/
def Settings.ofConfiguration (configuration : Json) : Except Fault Settings :=
  match configuration with
  | .obj fields => .ok (.ofConfigurationFields fields)
  | other => if other.isGiven then .error (.noSettings other.kindWord) else .ok .initial

def Settings.resolve (settings : Settings) (env : Environment) : Settings :=
  match env.find? "SMALLBASIC_COMPILER" with
  | some (c :: path) => { settings with compilerPath := c :: path }
  | _ => settings

end BasicWorkbench
