import Mathlib.Data.List.Forall2
import Mathlib.Data.List.Nodup
import BasicWorkbench.Json
import BasicWorkbench.OrderedMaps

namespace BasicWorkbench

theorem lookup_eq_find? (fields : List (Text × Json)) (name : Text) :
    fields.lookup name = OrderedMap.find? fields name := by
  induction fields with
  | nil => rfl
  | cons field fields ih =>
    obtain ⟨n, v⟩ := field
    by_cases same : n = name
    · subst same
      simp [List.lookup_cons_self, OrderedMap.find?]
    · have other : (name == n) = false := beq_eq_false_iff_ne.mpr (Ne.symm same)
      rw [List.lookup_cons, other, OrderedMap.find?, if_neg same]
      exact ih

theorem setField_eq_insert (name : Text) (value : Json) (fields : List (Text × Json)) :
    setField name value fields = OrderedMap.insert name value fields := by
  induction fields with
  | nil => rfl
  | cons field fields ih => rw [setField, OrderedMap.insert, ih]

theorem lookup_setField (name k : Text) (value : Json) (fields : List (Text × Json)) :
    (setField name value fields).lookup k = if name = k then some value else fields.lookup k := by
  rw [lookup_eq_find?, setField_eq_insert, OrderedMap.find?_insert, lookup_eq_find?]

theorem lookup_erase (name k : Text) (fields : List (Text × Json)) :
    (OrderedMap.erase fields name).lookup k = if name = k then none else fields.lookup k := by
  rw [lookup_eq_find?, OrderedMap.find?_erase, lookup_eq_find?]

theorem setField_of_lookup {name : Text} {value : Json} {fields : List (Text × Json)}
    (set : fields.lookup name = some value) : setField name value fields = fields := by
  rw [lookup_eq_find?] at set
  induction fields with
  | nil => cases set
  | cons field fields ih =>
    obtain ⟨n, v⟩ := field
    rw [OrderedMap.find?] at set
    by_cases same : n = name
    · rw [if_pos same] at set
      rw [setField, if_pos same, Option.some.inj set]
    · rw [if_neg same] at set
      rw [setField, if_neg same, ih set]

theorem find?_eq_some_iff_mem {α : Type} {m : OrderedMap α} (once : m.keys.Nodup) {key : Text} {value : α} :
    m.find? key = some value ↔ (key, value) ∈ m := by
  induction m with
  | nil => simp [OrderedMap.find?]
  | cons entry m ih =>
    obtain ⟨k, v⟩ := entry
    obtain ⟨new, later⟩ := List.nodup_cons.mp once
    by_cases same : k = key
    · subst same
      have only : (k, value) ∉ m := by
        intro listed
        have known : k ∈ m.map (·.1) := List.mem_map.mpr ⟨_, listed, rfl⟩
        exact new known
      simp [OrderedMap.find?, only, eq_comm]
    · simp [OrderedMap.find?, same, Ne.symm same, ih later]

theorem lookup_of_perm {fields others : List (Text × Json)} (once : (fields.map (·.1)).Nodup)
    (reordered : fields.Perm others) (name : Text) : others.lookup name = fields.lookup name := by
  have once' : (others.map (·.1)).Nodup := (reordered.map _).nodup_iff.mp once
  refine Option.ext fun value => ?_
  rw [lookup_eq_find?, lookup_eq_find?, find?_eq_some_iff_mem once, find?_eq_some_iff_mem once', reordered.mem_iff]

/-- The same value of JSON: the members of its objects can stand in another order. -/
inductive Json.SameValue : Json → Json → Prop
  | refl (v : Json) : SameValue v v
  | arr {items others : List Json} : List.Forall₂ SameValue items others → SameValue (.arr items) (.arr others)
  | obj {fields ordered others : List (Text × Json)} : fields.Perm ordered →
      ordered.map (·.1) = others.map (·.1) →
      List.Forall₂ SameValue (ordered.map (·.2)) (others.map (·.2)) → SameValue (.obj fields) (.obj others)

theorem Json.SameValue.eq_of_single {v w : Json} (same : v.SameValue w) (single : v.isSingle = true) : w = v := by
  cases same with
  | refl => rfl
  | arr _ => cases single
  | obj _ _ _ => cases single

theorem eq_of_sameValues {values others : List Json} (same : List.Forall₂ Json.SameValue values others)
    (single : ∀ v ∈ values, v.isSingle = true) : values = others := by
  induction same with
  | nil => rfl
  | cons first _ ih =>
    obtain ⟨here, later⟩ := List.forall_mem_cons.mp single
    rw [first.eq_of_single here, ih later]

theorem eq_of_columns {fields others : List (Text × Json)} (names : fields.map (·.1) = others.map (·.1))
    (values : fields.map (·.2) = others.map (·.2)) : fields = others := by
  rw [← List.zip_unzip fields, ← List.zip_unzip others, List.unzip_eq_map, List.unzip_eq_map, names, values]

theorem Json.SameValue.perm_of_single {fields : List (Text × Json)} {w : Json} (same : (Json.obj fields).SameValue w)
    (single : ∀ field ∈ fields, field.2.isSingle = true) : ∃ others, w = .obj others ∧ fields.Perm others := by
  cases same with
  | refl => exact ⟨fields, rfl, .refl fields⟩
  | @obj _ ordered others reordered names values =>
    have equal : ordered.map (·.2) = others.map (·.2) := by
      refine eq_of_sameValues values fun v hv => ?_
      obtain ⟨field, hf, rfl⟩ := List.mem_map.mp hv
      exact single field (reordered.mem_iff.mpr hf)
    exact ⟨others, rfl, eq_of_columns names equal ▸ reordered⟩

end BasicWorkbench
