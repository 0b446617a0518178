import BasicWorkbench.Proofs.ObjectFields
import BasicWorkbench.Proofs.PublicationLimits

namespace BasicWorkbench

/-- A setting: the name of its member in a section, the values that it takes there, and where settings keep it. -/
structure Setting (α : Type) where
  name : Text
  takes : Json → Option α
  kept : Settings → α

namespace Setting

variable {α : Type}

def compilerPath : Setting Text where
  name := "compilerPath"
  takes
    | .str (c :: path) => some (c :: path)
    | _ => none
  kept := Settings.compilerPath

def maxProblems : Setting Int where
  name := "maxNumberOfProblems"
  takes
    | .int n => if 0 ≤ n then some n else none
    | _ => none
  kept := Settings.maxProblems

def autoParentheses : Setting Bool where
  name := "enableAutoParentheses"
  takes
    | .bool b => some b
    | _ => none
  kept := Settings.autoParentheses

def read (setting : Setting α) (fields : List (Text × Json)) : α :=
  (setting.takes (fieldOf fields setting.name)).getD (setting.kept .initial)

end Setting

def sectionName : Text := "smallBasic"

/-- The section that a configuration is or holds. What is held and no object has no members. -/
def sectionOf (fields : List (Text × Json)) : List (Text × Json) :=
  match fields.lookup sectionName with
  | some (.obj inner) => inner
  | some _ => []
  | none => fields

theorem Settings.ofConfigurationFields_eq (fields : List (Text × Json)) :
    Settings.ofConfigurationFields fields = .ofFields (sectionOf fields) := by
  unfold Settings.ofConfigurationFields sectionOf sectionName
  cases fields.lookup "smallBasic".toList with
  | none => rfl
  | some held => cases held <;> rfl

theorem Setting.compilerPath_reads (fields : List (Text × Json)) :
    compilerPath.kept (.ofFields fields) = compilerPath.read fields := by
  have name : compilerPath.name = "compilerPath".toList := rfl
  unfold Settings.ofFields read
  rw [name]
  cases fieldOf fields "compilerPath".toList with
  | str path => cases path <;> rfl
  | _ => rfl

theorem Setting.maxProblems_reads (fields : List (Text × Json)) :
    maxProblems.kept (.ofFields fields) = maxProblems.read fields := by
  have name : maxProblems.name = "maxNumberOfProblems".toList := rfl
  unfold Settings.ofFields read
  rw [name]
  cases fieldOf fields "maxNumberOfProblems".toList with
  | int n =>
    change (if 0 ≤ n then n else _) = Option.getD (if 0 ≤ n then some n else none) _
    by_cases natural : 0 ≤ n
    · rw [if_pos natural, if_pos natural]
      rfl
    · rw [if_neg natural, if_neg natural]
      rfl
  | _ => rfl

theorem Setting.autoParentheses_reads (fields : List (Text × Json)) :
    autoParentheses.kept (.ofFields fields) = autoParentheses.read fields := by
  have name : autoParentheses.name = "enableAutoParentheses".toList := rfl
  unfold Settings.ofFields read
  rw [name]
  cases fieldOf fields "enableAutoParentheses".toList <;> rfl

/-- The objects have the same members but for the one of a name, which may be changed, new or gone. -/
def DifferAt (name : Text) (fields others : List (Text × Json)) : Prop :=
  ∀ k, k ≠ name → others.lookup k = fields.lookup k

theorem differAt_setField (name : Text) (value : Json) (fields : List (Text × Json)) :
    DifferAt name fields (setField name value fields) := by
  intro k other
  rw [lookup_setField, if_neg (Ne.symm other)]

theorem differAt_erase (name : Text) (fields : List (Text × Json)) :
    DifferAt name fields (OrderedMap.erase fields name) := by
  intro k other
  rw [lookup_erase, if_neg (Ne.symm other)]

theorem Setting.read_of_differAt {α : Type} (setting : Setting α) {name : Text} (other : name ≠ setting.name)
    {fields others : List (Text × Json)} (differ : DifferAt name fields others) :
    setting.read others = setting.read fields := by
  rw [read, read, fieldOf, fieldOf, differ setting.name (Ne.symm other)]

/-- A setting is read from its own member of the section, and no other member of it matters. -/
structure Setting.IsSeparate {α : Type} (setting : Setting α) : Prop where
  reads : ∀ fields, setting.kept (.ofConfigurationFields fields) = setting.read (sectionOf fields)
  apart : ∀ name, name ≠ setting.name → name ≠ sectionName → ∀ fields others, DifferAt name fields others →
    setting.kept (.ofConfigurationFields others) = setting.kept (.ofConfigurationFields fields)
  apartInside : ∀ name, name ≠ setting.name → ∀ fields others, DifferAt name (sectionOf fields) (sectionOf others) →
    setting.kept (.ofConfigurationFields others) = setting.kept (.ofConfigurationFields fields)

theorem Setting.IsSeparate.of_reads {α : Type} {setting : Setting α}
    (reads : ∀ fields, setting.kept (.ofFields fields) = setting.read fields) : setting.IsSeparate := by
  have reads' : ∀ fields, setting.kept (.ofConfigurationFields fields) = setting.read (sectionOf fields) := by
    intro fields
    rw [Settings.ofConfigurationFields_eq, reads]
  have inside : ∀ name, name ≠ setting.name → ∀ fields others, DifferAt name (sectionOf fields) (sectionOf others) →
      setting.kept (.ofConfigurationFields others) = setting.kept (.ofConfigurationFields fields) := by
    intro name other fields others differ
    rw [reads', reads', setting.read_of_differAt other differ]
  refine ⟨reads', ?_, inside⟩
  intro name other noSection fields others differ
  refine inside name other fields others ?_
  -- A configuration that holds a section holds the same one after the change.
  have held : others.lookup sectionName = fields.lookup sectionName := differ sectionName (Ne.symm noSection)
  unfold sectionOf
  rw [held]
  cases fields.lookup sectionName with
  | none => exact differ
  | some value => cases value <;> exact fun _ _ => rfl

theorem Settings.ofConfigurationFields_compilerPath (fields : List (Text × Json)) :
    (Settings.ofConfigurationFields fields).compilerPath ≠ [] := by
  have initial : Settings.initial.compilerPath ≠ [] := by decide
  change Setting.compilerPath.kept (.ofConfigurationFields fields) ≠ []
  rw [Settings.ofConfigurationFields_eq, Setting.compilerPath_reads]
  unfold Setting.read
  cases fieldOf (sectionOf fields) Setting.compilerPath.name with
  | str path =>
    cases path with
    | nil => exact initial
    | cons c path => exact List.cons_ne_nil c path
  | _ => exact initial

def compilerVariable : Text := "SMALLBASIC_COMPILER"

theorem Settings.resolve_of_given {env : Environment} {path : Text} (settings : Settings)
    (given : env.find? compilerVariable = some path) (some' : path ≠ []) :
    settings.resolve env = { settings with compilerPath := path } := by
  obtain ⟨c, rest, rfl⟩ := List.exists_cons_of_ne_nil some'
  unfold resolve
  rw [show env.find? "SMALLBASIC_COMPILER".toList = _ from given]

theorem Settings.resolve_of_not_given {env : Environment} (settings : Settings)
    (empty : ∀ path, env.find? compilerVariable = some path → path = []) : settings.resolve env = settings := by
  unfold resolve
  split
  next c rest given => exact absurd (empty _ given) (List.cons_ne_nil c rest)
  next => rfl

theorem settings_valid_and_separate (fields : List (Text × Json)) :
    (∃ settings, Settings.ofConfiguration (.obj fields) = .ok settings ∧
      ∀ env : Environment, (settings.resolve env).compilerPath ≠ [] ∧ 0 ≤ (settings.resolve env).maxProblems) ∧
    (Setting.compilerPath.IsSeparate ∧ Setting.maxProblems.IsSeparate ∧ Setting.autoParentheses.IsSeparate) ∧
    (fields.lookup sectionName = none →
      Settings.ofConfiguration (.obj [(sectionName, .obj fields)]) = Settings.ofConfiguration (.obj fields)) ∧
    ∀ (settings : Settings) (env : Environment),
      (∀ path, env.find? compilerVariable = some path → path ≠ [] →
        settings.resolve env = { settings with compilerPath := path }) ∧
      ((∀ path, env.find? compilerVariable = some path → path = []) → settings.resolve env = settings) := by
  refine ⟨⟨_, rfl, ?_⟩, ?_, ?_, ?_⟩
  · intro env
    refine ⟨?_, ?_⟩
    · by_cases given : ∃ path, env.find? compilerVariable = some path ∧ path ≠ []
      · obtain ⟨path, named, some'⟩ := given
        rwa [Settings.resolve_of_given _ named some']
      · have empty : ∀ path, env.find? compilerVariable = some path → path = [] := by
          intro path named
          by_contra some'
          exact given ⟨path, named, some'⟩
        rw [Settings.resolve_of_not_given _ empty]
        exact Settings.ofConfigurationFields_compilerPath fields
    · rw [Settings.resolve_maxProblems]
      exact Settings.ofConfigurationFields_nonneg fields
  · exact ⟨.of_reads Setting.compilerPath_reads, .of_reads Setting.maxProblems_reads,
      .of_reads Setting.autoParentheses_reads⟩
  · intro bare
    have held : sectionOf [(sectionName, .obj fields)] = fields := rfl
    have whole : sectionOf fields = fields := by rw [sectionOf, bare]
    refine congrArg Except.ok ?_
    rw [Settings.ofConfigurationFields_eq, Settings.ofConfigurationFields_eq, held, whole]
  · intro settings env
    exact ⟨fun path named some' => settings.resolve_of_given named some', settings.resolve_of_not_given⟩

end BasicWorkbench
