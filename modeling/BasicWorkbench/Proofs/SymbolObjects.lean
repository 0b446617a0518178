import Mathlib.Data.List.Nodup
import BasicWorkbench.Proofs.SymbolHistories

namespace BasicWorkbench

namespace OrderedMap

variable {α β : Type}

theorem mapValues_congr {f g : α → β} {m : OrderedMap α} (same : ∀ v ∈ m.values, f v = g v) :
    m.mapValues f = m.mapValues g := by
  refine List.map_congr_left ?_
  intro e he
  rw [same e.2 (List.mem_map_of_mem he)]

/-- A function that differs on one value, which stands under one key alone, sets that key. -/
theorem mapValues_eq_insert {f g : α → β} {m : OrderedMap α} {key : Text} {v : α} (found : m.find? key = some v)
    (once : m.values.Nodup) (same : ∀ w, w ≠ v → f w = g w) :
    m.mapValues f = insert key (f v) (m.mapValues g) := by
  induction m with
  | nil => cases found
  | cons e m ih =>
    obtain ⟨k, w⟩ := e
    obtain ⟨other, once⟩ := List.nodup_cons.mp once
    rw [find?] at found
    by_cases hk : k = key
    · rw [if_pos hk] at found
      obtain rfl : w = v := Option.some.inj found
      have rest : OrderedMap.mapValues f m = OrderedMap.mapValues g m := by
        refine mapValues_congr fun u hu => same u ?_
        rintro rfl
        exact other hu
      change (k, f w) :: OrderedMap.mapValues f m = _
      rw [rest]
      exact (if_pos hk).symm
    · rw [if_neg hk] at found
      have here : f w = g w := by
        refine same w ?_
        rintro rfl
        exact other (mem_values_of_find? found)
      change (k, f w) :: OrderedMap.mapValues f m = _
      rw [ih found once, here]
      exact (if_neg hk).symm

/-- A new value comes into a map beside others without standing twice. -/
theorem nodup_values_insert {m : OrderedMap α} {others : List α} {v : α} (once : (others ++ m.values).Nodup)
    (new : v ∉ others ++ m.values) (key : Text) : (others ++ (insert key v m).values).Nodup := by
  induction m generalizing others with
  | nil =>
    have alone : others ++ OrderedMap.values ([] : OrderedMap α) = others := List.append_nil _
    rw [alone] at once new
    exact List.nodup_append_comm.mp (List.nodup_cons.mpr ⟨new, once⟩)
  | cons e m ih =>
    obtain ⟨k, w⟩ := e
    change (others ++ w :: OrderedMap.values m).Nodup at once
    change v ∉ others ++ w :: OrderedMap.values m at new
    by_cases hk : k = key
    · have changed : insert key v ((k, w) :: m) = (k, v) :: m := if_pos hk
      have rest : (others ++ OrderedMap.values m).Nodup := (List.nodup_middle.mp once).of_cons
      rw [changed]
      refine List.nodup_middle.mpr (List.nodup_cons.mpr ⟨?_, rest⟩)
      intro held
      exact new (List.perm_middle.mem_iff.mpr (List.mem_cons_of_mem _ held))
    · have kept : insert key v ((k, w) :: m) = (k, w) :: insert key v m := if_neg hk
      rw [List.append_cons] at once new
      rw [kept]
      have later := ih once new
      rwa [← List.append_cons] at later

end OrderedMap

/-- The map has the objects whose numbers stand under the same keys. -/
def Reads (objects : List Symbol) (numbers : OrderedMap Nat) (m : OrderedMap Symbol) : Prop :=
  numbers.mapValues (objects[·]?) = m.mapValues some

namespace Reads

variable {objects : List Symbol} {numbers : OrderedMap Nat} {m : OrderedMap Symbol}

theorem find? (reads : Reads objects numbers m) (key : Text) :
    (numbers.find? key).map (objects[·]?) = (m.find? key).map some := by
  have found := congrArg (OrderedMap.find? · key) reads
  simpa only [OrderedMap.find?_mapValues] using found

theorem lt (reads : Reads objects numbers m) {number : Nat} (held : number ∈ numbers.values) :
    number < objects.length := by
  have there : objects[number]? ∈ (numbers.mapValues (objects[·]?)).values := by
    obtain ⟨e, he, rfl⟩ := List.mem_map.mp held
    exact List.mem_map_of_mem (List.mem_map_of_mem he)
  rw [reads] at there
  obtain ⟨e, he, same⟩ := List.mem_map.mp there
  obtain ⟨known, _, rfl⟩ := List.mem_map.mp he
  exact (List.getElem?_eq_some_iff.mp same.symm).1

/-- A further object leaves those that there are. -/
theorem append (reads : Reads objects numbers m) (s : Symbol) : Reads (objects ++ [s]) numbers m := by
  refine Eq.trans ?_ reads
  refine OrderedMap.mapValues_congr fun number held => ?_
  exact List.getElem?_append_left (reads.lt held)

theorem insert (reads : Reads objects numbers m) (key : Text) (s : Symbol) :
    Reads (objects ++ [s]) (numbers.insert key objects.length) (m.insert key s) := by
  have last : (objects ++ [s])[objects.length]? = some s := List.getElem?_concat_length
  unfold Reads
  rw [← OrderedMap.insert_mapValues, ← OrderedMap.insert_mapValues, last, reads.append s]

/-- An object that is changed in place changes under its key. -/
theorem modify (reads : Reads objects numbers m) {key : Text} {number : Nat} {known : Symbol}
    (found : numbers.find? key = some number) (object : objects[number]? = some known)
    (once : numbers.values.Nodup) (change : Symbol → Symbol) :
    Reads (objects.modify number change) numbers (m.insert key (change known)) := by
  have changed : (objects.modify number change)[number]? = some (change known) := by
    rw [List.getElem?_modify_eq, object]
    rfl
  unfold Reads
  rw [← OrderedMap.insert_mapValues, ← reads, ← changed]
  refine OrderedMap.mapValues_eq_insert found once fun other different => ?_
  exact List.getElem?_modify_ne _ _ different.symm

theorem modify_other (reads : Reads objects numbers m) {number : Nat} (other : number ∉ numbers.values)
    (change : Symbol → Symbol) : Reads (objects.modify number change) numbers m := by
  refine Eq.trans ?_ reads
  refine OrderedMap.mapValues_congr fun held there => ?_
  refine List.getElem?_modify_ne _ _ ?_
  rintro rfl
  exact other there

end Reads

/-- A table whose entries are objects: under a key stands the number of an object, and the objects can be changed
in place. An object stays where it is when its key is taken out. -/
structure SymbolObjects where
  objects : List Symbol
  variableNumbers : OrderedMap Nat
  subroutineNumbers : OrderedMap Nat
  deriving DecidableEq, Repr

namespace SymbolObjects

def empty : SymbolObjects := ⟨[], [], []⟩

def addVariable (t : SymbolObjects) (s : Symbol) : SymbolObjects :=
  match t.variableNumbers.find? s.key with
  | some number =>
    { t with objects := t.objects.modify number fun known => { known with valueType := s.valueType } }
  | none =>
    { t with
      objects := t.objects ++ [s]
      variableNumbers := t.variableNumbers.insert s.key t.objects.length }

def addSubroutine (t : SymbolObjects) (s : Symbol) : SymbolObjects :=
  { t with
    objects := t.objects ++ [s]
    subroutineNumbers := t.subroutineNumbers.insert s.key t.objects.length }

def add (t : SymbolObjects) : Addition → SymbolObjects
  | .assigned s => t.addVariable s
  | .declared s => t.addSubroutine s

def clear (t : SymbolObjects) : SymbolObjects := { t with variableNumbers := [], subroutineNumbers := [] }

def collect (t : SymbolObjects) (lines : List Text) : SymbolObjects := (linesAdd none 0 lines).foldl add t

def change (t : SymbolObjects) : TableChange → SymbolObjects
  | .add addition => t.add addition
  | .collect lines => t.collect lines
  | .clear => t.clear

def read (objects : List Symbol) (numbers : OrderedMap Nat) : OrderedMap Symbol :=
  numbers.filterMap fun e => (objects[e.2]?).map (e.1, ·)

def table (t : SymbolObjects) : SymbolTable where
  knownVariables := read t.objects t.variableNumbers
  knownSubroutines := read t.objects t.subroutineNumbers

theorem read_eq {objects : List Symbol} {numbers : OrderedMap Nat} {m : OrderedMap Symbol}
    (reads : Reads objects numbers m) : read objects numbers = m := by
  have looked : read objects numbers =
      (numbers.mapValues (objects[·]?)).filterMap fun e => e.2.map (e.1, ·) := by
    rw [OrderedMap.mapValues, List.filterMap_map]
    rfl
  rw [looked, reads, OrderedMap.mapValues, List.filterMap_map]
  exact List.filterMap_some

/-- The objects under the keys are the symbols of a table, and no two keys share an object. -/
structure Shows (t : SymbolObjects) (table : SymbolTable) : Prop where
  assigned : Reads t.objects t.variableNumbers table.knownVariables
  declared : Reads t.objects t.subroutineNumbers table.knownSubroutines
  apart : (t.subroutineNumbers.values ++ t.variableNumbers.values).Nodup

namespace Shows

theorem cleared (t : SymbolObjects) : t.clear.Shows .empty := ⟨rfl, rfl, List.nodup_nil⟩

variable {t : SymbolObjects} {table : SymbolTable}

theorem table_eq (shown : t.Shows table) : t.table = table := by
  rw [SymbolObjects.table, read_eq shown.assigned, read_eq shown.declared]

theorem new (shown : t.Shows table) :
    t.objects.length ∉ t.subroutineNumbers.values ++ t.variableNumbers.values := by
  intro held
  rcases List.mem_append.mp held with old | old
  · exact Nat.lt_irrefl _ (shown.declared.lt old)
  · exact Nat.lt_irrefl _ (shown.assigned.lt old)

theorem addSubroutine (shown : t.Shows table) (s : Symbol) :
    (t.addSubroutine s).Shows (table.addSubroutine s) := by
  refine ⟨shown.assigned.append s, shown.declared.insert s.key s, ?_⟩
  have apart := List.nodup_append_comm.mp shown.apart
  have new : t.objects.length ∉ t.variableNumbers.values ++ t.subroutineNumbers.values := fun held =>
    shown.new (List.perm_append_comm.mem_iff.mp held)
  exact List.nodup_append_comm.mp (OrderedMap.nodup_values_insert apart new s.key)

theorem addVariable (shown : t.Shows table) (s : Symbol) : (t.addVariable s).Shows (table.addVariable s) := by
  have found := shown.assigned.find? s.key
  rw [SymbolObjects.addVariable]
  cases there : t.variableNumbers.find? s.key with
  | none =>
    rw [there] at found
    rw [SymbolTable.addVariable_of_new (Option.map_eq_none_iff.mp found.symm)]
    exact ⟨shown.assigned.insert s.key s, shown.declared.append s,
      OrderedMap.nodup_values_insert shown.apart shown.new s.key⟩
  | some number =>
    rw [there] at found
    obtain ⟨known, read, object⟩ := Option.map_eq_some_iff.mp found.symm
    obtain ⟨_, once, others⟩ := List.nodup_append.mp shown.apart
    have other : number ∉ t.subroutineNumbers.values := fun held =>
      others number held number (OrderedMap.mem_values_of_find? there) rfl
    rw [SymbolTable.addVariable_of_known read]
    exact ⟨shown.assigned.modify there object.symm once _, shown.declared.modify_other other _, shown.apart⟩

theorem addAll (shown : t.Shows table) (additions : List Addition) :
    (additions.foldl SymbolObjects.add t).Shows (additions.foldl SymbolTable.add table) := by
  induction additions generalizing t table with
  | nil => exact shown
  | cons addition additions ih =>
    cases addition with
    | assigned s => exact ih (shown.addVariable s)
    | declared s => exact ih (shown.addSubroutine s)

theorem collect (shown : t.Shows table) (lines : List Text) : (t.collect lines).Shows (table.collect lines) := by
  rw [SymbolTable.collect, SymbolTable.collectFrom_eq_foldl]
  exact shown.addAll (linesAdd none 0 lines)

theorem change (shown : t.Shows table) (c : TableChange) : (t.change c).Shows (table.change c) := by
  cases c with
  | add addition => exact shown.addAll [addition]
  | collect lines => exact shown.collect lines
  | clear => exact cleared t

/-- The objects show the table through all changes. -/
theorem run (shown : t.Shows table) (changes : List TableChange) :
    (changes.foldl SymbolObjects.change t).Shows (changes.foldl SymbolTable.change table) := by
  induction changes generalizing t table with
  | nil => exact shown
  | cons c changes ih => exact ih (shown.change c)

end Shows

end SymbolObjects

/-- A table is what was told to it since it was cleared last, although its symbols are changed in place: it keeps no
key twice, finds under a name in any case the subroutine told last or else the variable, and lists all in the order
in which their keys came. -/
theorem table_eq_history (changes : List TableChange) :
    let table := changes.foldl SymbolTable.change .empty
    let history := TableChange.sinceClear changes
    let assigned := variablesTold history
    let declared := subroutinesTold history
    (changes.foldl SymbolObjects.change .empty).table = table ∧ table = .ofHistory history ∧
      table.knownVariables.keys.Nodup ∧ table.knownSubroutines.keys.Nodup ∧
      (∀ name, table.lookup name = (lastTold (lower name) declared).or (variableTold (lower name) assigned)) ∧
      table.symbols = (keysInOrder declared).filterMap (lastTold · declared) ++
        (keysInOrder assigned).filterMap (variableTold · assigned) := by
  intro table history assigned declared
  have records : table.Records history := SymbolTable.records_sinceClear changes
  have shown := (SymbolObjects.Shows.cleared .empty).run changes
  refine ⟨shown.table_eq, records.eq_ofHistory, ?_, ?_, ?_, ?_⟩
  · rw [records.assignedKeys]
    exact nodup_keysInOrder _
  · rw [records.declaredKeys]
    exact nodup_keysInOrder _
  · intro name
    rw [SymbolTable.lookup, records.declared, records.assigned]
  · rw [records.eq_ofHistory]
    exact SymbolTable.symbols_ofHistory history

end BasicWorkbench
