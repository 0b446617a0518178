import Mathlib.Data.List.DropRight
import BasicWorkbench.Proofs.SubroutineOutlines

namespace BasicWorkbench

inductive Addition where
  | assigned (s : Symbol)
  | declared (s : Symbol)
  deriving DecidableEq, Repr

def Addition.variable? : Addition → Option Symbol
  | .assigned s => some s
  | .declared _ => none

def Addition.subroutine? : Addition → Option Symbol
  | .assigned _ => none
  | .declared s => some s

def variablesTold (history : List Addition) : List Symbol := history.filterMap Addition.variable?

def subroutinesTold (history : List Addition) : List Symbol := history.filterMap Addition.subroutine?

def Symbol.key (s : Symbol) : Text := lower s.name

/-- The keys of symbols, each of them once and where it comes first. -/
def keysInOrder (told : List Symbol) : List Text := (told.map Symbol.key).eraseDups

def firstTold (key : Text) (told : List Symbol) : Option Symbol := told.find? fun s => s.key = key

def lastTold (key : Text) (told : List Symbol) : Option Symbol := told.reverse.find? fun s => s.key = key

/-- The variable of a key: as it was told first, but with the type that was told last. -/
def variableTold (key : Text) (told : List Symbol) : Option Symbol := do
  let first ← firstTold key told
  let last ← lastTold key told
  some { first with valueType := last.valueType }

theorem keysInOrder_concat (told : List Symbol) (s : Symbol) :
    keysInOrder (told ++ [s]) =
      if s.key ∈ keysInOrder told then keysInOrder told else keysInOrder told ++ [s.key] := by
  have single : ([s].map Symbol.key).removeAll (told.map Symbol.key) =
      if s.key ∈ told.map Symbol.key then [] else [s.key] := by
    by_cases known : s.key ∈ told.map Symbol.key
    · rw [if_pos known, List.removeAll, List.filter_eq_nil_iff]
      simpa using known
    · rw [if_neg known, List.removeAll, List.filter_eq_self.mpr]
      · rfl
      · simpa using known
  unfold keysInOrder
  rw [List.map_append, List.eraseDups_append, single]
  simp only [List.mem_eraseDups]
  split
  next => exact List.append_nil _
  next => rfl

theorem nodup_keysInOrder (told : List Symbol) : (keysInOrder told).Nodup := by
  induction told using List.reverseRecOn with
  | nil => exact List.nodup_nil
  | append_singleton told s ih =>
    rw [keysInOrder_concat]
    split
    next => exact ih
    next new =>
      refine List.nodup_append.mpr ⟨ih, by simp, ?_⟩
      rintro a ha _ hb rfl
      exact new (List.mem_singleton.mp hb ▸ ha)

theorem lastTold_concat (key : Text) (told : List Symbol) (s : Symbol) :
    lastTold key (told ++ [s]) = if s.key = key then some s else lastTold key told := by
  by_cases same : s.key = key
  · simp [lastTold, same]
  · simp [lastTold, same]

theorem lastTold_isSome (key : Text) (told : List Symbol) :
    (lastTold key told).isSome = (firstTold key told).isSome := by
  rw [Bool.eq_iff_iff]
  simp [lastTold, firstTold]

/-- The next variable of a key gives the known one its type, and is the known one where there is none. -/
theorem variableTold_concat (key : Text) (told : List Symbol) (s : Symbol) :
    variableTold key (told ++ [s]) =
      if s.key = key then
        match variableTold key told with
        | some known => some { known with valueType := s.valueType }
        | none => some s
      else variableTold key told := by
  have both := lastTold_isSome key told
  have first : firstTold key (told ++ [s]) =
      (firstTold key told).or (if s.key = key then some s else none) := by
    by_cases same : s.key = key
    · simp [firstTold, same]
    · simp [firstTold, same]
  unfold variableTold
  rw [first, lastTold_concat]
  by_cases same : s.key = key
  · cases hf : firstTold key told with
    | none => simp [same]
    | some f =>
      obtain ⟨l, hl⟩ := Option.isSome_iff_exists.mp (both.trans (by rw [hf]; rfl))
      simp [same, hl]
  · simp [same]

/-- A map without a key that stands twice is told by its keys and by what it finds under them. -/
theorem OrderedMap.eq_filterMap_keys {α : Type} {m : OrderedMap α} (once : m.keys.Nodup) :
    m = m.keys.filterMap fun key => (m.find? key).map (key, ·) := by
  induction m with
  | nil => rfl
  | cons e m ih =>
    obtain ⟨key, value⟩ := e
    obtain ⟨absent, once⟩ := List.nodup_cons.mp once
    have here : OrderedMap.find? ((key, value) :: m) key = some value := if_pos rfl
    have later : ∀ k ∈ OrderedMap.keys m,
        OrderedMap.find? ((key, value) :: m) k = OrderedMap.find? m k := by
      intro k hk
      refine if_neg ?_
      rintro rfl
      exact absent hk
    have rest : (OrderedMap.keys m).filterMap (fun k => (OrderedMap.find? ((key, value) :: m) k).map (k, ·)) =
        m := by
      conv => rhs; rw [ih once]
      exact List.filterMap_congr fun k hk => by rw [later k hk]
    change _ = (key :: OrderedMap.keys m).filterMap _
    rw [List.filterMap_cons, here, rest]
    rfl

namespace SymbolTable

theorem addVariable_of_new {table : SymbolTable} {s : Symbol} (new : table.knownVariables.find? s.key = none) :
    table.addVariable s = { table with knownVariables := table.knownVariables.insert s.key s } := by
  unfold Symbol.key at new ⊢
  simp only [addVariable, new]

theorem addVariable_of_known {table : SymbolTable} {s known : Symbol}
    (found : table.knownVariables.find? s.key = some known) :
    table.addVariable s =
      { table with
        knownVariables := table.knownVariables.insert s.key { known with valueType := s.valueType } } := by
  unfold Symbol.key at found ⊢
  simp only [addVariable, found]

/-- The table that additions lead to: each kind has one entry for a key, in the order in which the keys came.
A variable is kept as it was told first, with the type told last, and a subroutine as it was told last. -/
def ofHistory (history : List Addition) : SymbolTable where
  knownVariables := (keysInOrder (variablesTold history)).filterMap fun key =>
    (variableTold key (variablesTold history)).map (key, ·)
  knownSubroutines := (keysInOrder (subroutinesTold history)).filterMap fun key =>
    (lastTold key (subroutinesTold history)).map (key, ·)

/-- The table has the keys that were told, in their order, and finds under each what it was told of it. -/
structure Records (table : SymbolTable) (history : List Addition) : Prop where
  assignedKeys : table.knownVariables.keys = keysInOrder (variablesTold history)
  assigned : ∀ key, table.knownVariables.find? key = variableTold key (variablesTold history)
  declaredKeys : table.knownSubroutines.keys = keysInOrder (subroutinesTold history)
  declared : ∀ key, table.knownSubroutines.find? key = lastTold key (subroutinesTold history)

theorem Records.empty : SymbolTable.empty.Records [] := ⟨rfl, fun _ => rfl, rfl, fun _ => rfl⟩

section Steps

variable {table : SymbolTable} {history : List Addition} (records : table.Records history)

include records

theorem Records.eq_ofHistory : table = .ofHistory history := by
  obtain ⟨known, subroutines⟩ := table
  obtain ⟨assignedKeys, assigned, declaredKeys, declared⟩ := records
  dsimp only at assignedKeys assigned declaredKeys declared
  have once : known.keys.Nodup := assignedKeys ▸ nodup_keysInOrder _
  have once' : subroutines.keys.Nodup := declaredKeys ▸ nodup_keysInOrder _
  rw [ofHistory, OrderedMap.eq_filterMap_keys once, OrderedMap.eq_filterMap_keys once', assignedKeys, declaredKeys]
  simp only [assigned, declared]

theorem Records.addVariable (s : Symbol) : (table.addVariable s).Records (history ++ [.assigned s]) := by
  have told : variablesTold (history ++ [.assigned s]) = variablesTold history ++ [s] := by
    simp [variablesTold, Addition.variable?]
  have others : subroutinesTold (history ++ [.assigned s]) = subroutinesTold history := by
    simp [subroutinesTold, Addition.subroutine?]
  constructor
  case assignedKeys =>
    rw [told, keysInOrder_concat, ← records.assignedKeys]
    exact OrderedMap.keys_insert _ _ _
  case assigned =>
    intro key
    rw [told, variableTold_concat, ← records.assigned key]
    refine (OrderedMap.find?_insert _ _ _ _).trans ?_
    by_cases same : s.key = key
    · subst same
      refine (if_pos rfl).trans ?_
      rw [if_pos rfl, ← Symbol.key]
      cases table.knownVariables.find? s.key <;> rfl
    · rw [if_neg same]
      exact if_neg same
  case declaredKeys => rw [others]; exact records.declaredKeys
  case declared => rw [others]; exact records.declared

theorem Records.addSubroutine (s : Symbol) :
    (table.addSubroutine s).Records (history ++ [.declared s]) := by
  have told : subroutinesTold (history ++ [.declared s]) = subroutinesTold history ++ [s] := by
    simp [subroutinesTold, Addition.subroutine?]
  have others : variablesTold (history ++ [.declared s]) = variablesTold history := by
    simp [variablesTold, Addition.variable?]
  constructor
  case assignedKeys => rw [others]; exact records.assignedKeys
  case assigned => rw [others]; exact records.assigned
  case declaredKeys =>
    rw [told, keysInOrder_concat, ← records.declaredKeys]
    exact OrderedMap.keys_insert _ _ _
  case declared =>
    intro key
    rw [told, lastTold_concat, ← records.declared key]
    exact OrderedMap.find?_insert _ _ _ _

end Steps

section Records

variable {table table' : SymbolTable} {history history' : List Addition}

theorem Records.knownVariables_eq_iff (records : table.Records history) (records' : table'.Records history') :
    table.knownVariables = table'.knownVariables ↔
      keysInOrder (variablesTold history) = keysInOrder (variablesTold history') ∧
        ∀ key, variableTold key (variablesTold history) = variableTold key (variablesTold history') := by
  constructor
  · intro same
    refine ⟨?_, fun key => ?_⟩
    · rw [← records.assignedKeys, same, records'.assignedKeys]
    · rw [← records.assigned, same, records'.assigned]
  · rintro ⟨keys, told⟩
    rw [records.eq_ofHistory, records'.eq_ofHistory, ofHistory, ofHistory]
    simp only [keys, told]

/-- A function of symbols that keeps their keys can be applied before they are told. -/
theorem Records.mapValues_knownSubroutines (records : table.Records history) {f : Symbol → Symbol}
    (keyed : ∀ s, (f s).key = s.key) :
    table.knownSubroutines.mapValues f =
      (keysInOrder ((subroutinesTold history).map f)).filterMap fun key =>
        (lastTold key ((subroutinesTold history).map f)).map (key, ·) := by
  have keys : keysInOrder ((subroutinesTold history).map f) = keysInOrder (subroutinesTold history) := by
    rw [keysInOrder, keysInOrder, List.map_map]
    exact congrArg List.eraseDups (List.map_congr_left fun s _ => keyed s)
  have last : ∀ key, lastTold key ((subroutinesTold history).map f) =
      (lastTold key (subroutinesTold history)).map f := by
    intro key
    have same : (fun s : Symbol => decide (s.key = key)) ∘ f = fun s => decide (s.key = key) :=
      funext fun s => by rw [Function.comp_apply, keyed]
    rw [lastTold, lastTold, ← List.map_reverse, List.find?_map, same]
  rw [records.eq_ofHistory, ofHistory, OrderedMap.mapValues, List.map_filterMap, keys]
  refine List.filterMap_congr fun key _ => ?_
  rw [last, Option.map_map, Option.map_map]
  rfl

end Records

end SymbolTable

def assignmentAdds (number : Nat) (line : Text) : List Addition :=
  (assignmentOn? line).toList.map fun a => .assigned (a.symbol number)

/-- What the lines from a number on add, one after the other; `started` is the subroutine begun before, with
its line. -/
def linesAdd (started : Option (SubroutineStart × Nat)) (number : Nat) : List Text → List Addition
  | [] => []
  | line :: lines =>
    assignmentAdds number line ++
      match subroutineStartOn? line, started with
      | some s, _ => linesAdd (some (s, number)) (number + 1) lines
      | none, some (s, first) =>
        if endsSubroutine line then
          .declared (s.symbol first number line) :: linesAdd none (number + 1) lines
        else linesAdd started (number + 1) lines
      | none, none => linesAdd none (number + 1) lines

namespace SymbolTable

def add (table : SymbolTable) : Addition → SymbolTable
  | .assigned s => table.addVariable s
  | .declared s => table.addSubroutine s

theorem assign_eq_foldl (table : SymbolTable) (number : Nat) (line : Text) :
    table.assign number line = (assignmentAdds number line).foldl add table := by
  unfold assign assignmentAdds
  cases assignmentOn? line <;> rfl

theorem collectFrom_eq_foldl (table : SymbolTable) (started : Option (SubroutineStart × Nat)) (number : Nat)
    (lines : List Text) :
    collectFrom table started number lines = (linesAdd started number lines).foldl add table := by
  induction lines generalizing table started number with
  | nil => rfl
  | cons line lines ih =>
    rw [collectFrom_cons, linesAdd.eq_def, List.foldl_append, ← assign_eq_foldl]
    cases subroutineStartOn? line with
    | some s => exact ih _ _ _
    | none =>
      cases started with
      | none => exact ih _ _ _
      | some waiting =>
        obtain ⟨s, first⟩ := waiting
        dsimp only
        split
        next => exact ih _ _ _
        next => exact ih _ _ _

end SymbolTable

/-- What is done to a table: a symbol is added, the symbols of a document are, or all are taken out. -/
inductive TableChange where
  | add (addition : Addition)
  | collect (lines : List Text)
  | clear
  deriving DecidableEq, Repr

namespace TableChange

def isClear : TableChange → Bool
  | .clear => true
  | _ => false

def additions : TableChange → List Addition
  | .add addition => [addition]
  | .collect lines => linesAdd none 0 lines
  | .clear => []

def sinceClear (changes : List TableChange) : List Addition :=
  (changes.rtakeWhile (!·.isClear)).flatMap additions

theorem sinceClear_concat (changes : List TableChange) (change : TableChange) :
    sinceClear (changes ++ [change]) =
      if change.isClear then [] else sinceClear changes ++ change.additions := by
  unfold sinceClear
  rw [List.rtakeWhile_concat]
  cases change.isClear with
  | true => rfl
  | false => simp

end TableChange

namespace SymbolTable

def clear (table : SymbolTable) : SymbolTable := { table with knownVariables := [], knownSubroutines := [] }

def change (table : SymbolTable) : TableChange → SymbolTable
  | .add addition => table.add addition
  | .collect lines => table.collect lines
  | .clear => table.clear

theorem Records.addAll {table : SymbolTable} {history : List Addition} (records : table.Records history)
    (additions : List Addition) : (additions.foldl add table).Records (history ++ additions) := by
  induction additions generalizing table history with
  | nil => simpa using records
  | cons addition additions ih =>
    have added : (table.add addition).Records (history ++ [addition]) := by
      cases addition with
      | assigned s => exact records.addVariable s
      | declared s => exact records.addSubroutine s
    have rest := ih added
    rwa [List.append_assoc] at rest

theorem records_collect (lines : List Text) : (empty.collect lines).Records (linesAdd none 0 lines) := by
  have collected := Records.empty.addAll (linesAdd none 0 lines)
  rwa [← collectFrom_eq_foldl] at collected

theorem Records.change {table : SymbolTable} {changes : List TableChange}
    (records : table.Records (TableChange.sinceClear changes)) (change : TableChange) :
    (table.change change).Records (TableChange.sinceClear (changes ++ [change])) := by
  rw [TableChange.sinceClear_concat]
  cases change with
  | add addition => exact records.addAll [addition]
  | collect lines =>
    have collected := records.addAll (linesAdd none 0 lines)
    rwa [← collectFrom_eq_foldl] at collected
  | clear => exact Records.empty

/-- Whatever was done to a table, it records what was added since it was cleared last. -/
theorem records_sinceClear (changes : List TableChange) :
    (changes.foldl SymbolTable.change .empty).Records (TableChange.sinceClear changes) := by
  induction changes using List.reverseRecOn with
  | nil => exact Records.empty
  | append_singleton changes change ih =>
    rw [List.foldl_append]
    exact ih.change change

theorem symbols_ofHistory (history : List Addition) :
    (ofHistory history).symbols =
      (keysInOrder (subroutinesTold history)).filterMap (lastTold · (subroutinesTold history)) ++
        (keysInOrder (variablesTold history)).filterMap (variableTold · (variablesTold history)) := by
  have values : ∀ (keys : List Text) (f : Text → Option Symbol),
      (keys.filterMap fun key => (f key).map (key, ·)).map Prod.snd = keys.filterMap f := by
    intro keys f
    rw [List.map_filterMap]
    refine List.filterMap_congr fun key _ => ?_
    cases f key <;> rfl
  simp only [symbols, ofHistory, OrderedMap.values, values]

end SymbolTable

end BasicWorkbench
