import BasicWorkbench.Text

namespace BasicWorkbench

/-- Values under texts, in the order in which their keys came in. -/
abbrev OrderedMap (α : Type) := List (Text × α)

namespace OrderedMap

variable {α : Type}

def find? : OrderedMap α → Text → Option α
  | [], _ => none
  | (k, v) :: m, key => if k = key then some v else find? m key

def keys (m : OrderedMap α) : List Text := m.map (·.1)

def values (m : OrderedMap α) : List α := m.map (·.2)

def insert (key : Text) (value : α) : OrderedMap α → OrderedMap α
  | [] => [(key, value)]
  | (k, v) :: m => if k = key then (k, value) :: m else (k, v) :: insert key value m

def mapValues {β : Type} (f : α → β) (m : OrderedMap α) : OrderedMap β := m.map fun e => (e.1, f e.2)

def erase (m : OrderedMap α) (key : Text) : OrderedMap α := m.filter fun e => e.1 != key

theorem find?_insert (m : OrderedMap α) (key k : Text) (value : α) :
    (insert key value m).find? k = if key = k then some value else m.find? k := by
  induction m with
  | nil => simp [insert, find?]
  | cons e m ih =>
    obtain ⟨j, v⟩ := e
    by_cases hj : j = key
    · subst hj
      by_cases hk : j = k
      · simp [insert, find?, hk]
      · simp [insert, find?, hk]
    · by_cases hk : j = k
      · subst hk
        simp [insert, find?, hj, Ne.symm hj]
      · simp [insert, find?, hj, hk, ih]

theorem find?_erase (m : OrderedMap α) (key k : Text) :
    (m.erase key).find? k = if key = k then none else m.find? k := by
  induction m with
  | nil => simp [erase, find?]
  | cons e m ih =>
    obtain ⟨j, v⟩ := e
    simp only [erase] at ih
    by_cases hj : j = key
    · subst hj
      by_cases hk : j = k
      · simpa [erase, find?, hk] using ih
      · simpa [erase, find?, hk] using ih
    · by_cases hk : j = k
      · subst hk
        simp [erase, find?, hj, Ne.symm hj]
      · simpa [erase, find?, hj, hk] using ih

theorem find?_mapValues {β : Type} (f : α → β) (m : OrderedMap α) (key : Text) :
    (m.mapValues f).find? key = (m.find? key).map f := by
  induction m with
  | nil => rfl
  | cons e m ih =>
    obtain ⟨k, v⟩ := e
    by_cases hk : k = key
    · simp [mapValues, find?, hk]
    · simpa [mapValues, find?, hk] using ih

theorem insert_mapValues {β : Type} (f : α → β) (m : OrderedMap α) (key : Text) (value : α) :
    insert key (f value) (m.mapValues f) = (insert key value m).mapValues f := by
  induction m with
  | nil => rfl
  | cons e m ih =>
    obtain ⟨k, v⟩ := e
    by_cases hk : k = key
    · simp [mapValues, insert, hk]
    · simpa [mapValues, insert, hk] using ih

theorem mem_keys_iff (m : OrderedMap α) (key : Text) : key ∈ m.keys ↔ (m.find? key).isSome := by
  induction m with
  | nil => simp [keys, find?]
  | cons e m ih =>
    obtain ⟨j, v⟩ := e
    simp only [keys, List.map_cons, List.mem_cons] at ih ⊢
    by_cases hj : j = key
    · simp [find?, hj]
    · simp [find?, hj, Ne.symm hj, ih]

theorem keys_insert (m : OrderedMap α) (key : Text) (value : α) :
    (insert key value m).keys = if key ∈ m.keys then m.keys else m.keys ++ [key] := by
  induction m with
  | nil => simp [insert, keys]
  | cons e m ih =>
    obtain ⟨k, v⟩ := e
    simp only [keys] at ih
    by_cases hk : k = key
    · simp [insert, keys, hk]
    · by_cases hm : key ∈ List.map (·.1) m
      · simp [insert, keys, hk, Ne.symm hk, ih, hm]
      · simp [insert, keys, hk, Ne.symm hk, ih, hm]

theorem nodup_keys_insert {m : OrderedMap α} (once : m.keys.Nodup) (key : Text) (value : α) :
    (insert key value m).keys.Nodup := by
  rw [keys_insert]
  split
  next => exact once
  next new =>
    rw [List.nodup_append]
    refine ⟨once, by simp, ?_⟩
    rintro a ha _ hb rfl
    exact new (List.mem_singleton.mp hb ▸ ha)

theorem keys_erase (m : OrderedMap α) (key : Text) : (m.erase key).keys = m.keys.filter (· != key) := by
  rw [erase, keys, keys, List.filter_map]
  rfl

theorem mem_values_of_find? {m : OrderedMap α} {key : Text} {value : α} (h : m.find? key = some value) :
    value ∈ m.values := by
  induction m with
  | nil => simp [find?] at h
  | cons e m ih =>
    obtain ⟨k, v⟩ := e
    simp only [find?] at h
    split at h
    next =>
      obtain rfl := Option.some.inj h
      exact List.mem_cons_self
    next => exact List.mem_cons_of_mem v (ih h)

theorem mem_values_insert {m : OrderedMap α} {key : Text} {value v : α} (h : v ∈ (insert key value m).values) :
    v = value ∨ v ∈ m.values := by
  induction m with
  | nil => exact .inl (List.mem_singleton.mp h)
  | cons e m ih =>
    obtain ⟨k, w⟩ := e
    simp only [insert] at h
    split at h
    next =>
      rcases List.mem_cons.mp h with rfl | later
      · exact .inl rfl
      · exact .inr (List.mem_cons_of_mem w later)
    next =>
      rcases List.mem_cons.mp h with rfl | later
      · exact .inr List.mem_cons_self
      · exact (ih later).imp_right (List.mem_cons_of_mem w)

end OrderedMap

end BasicWorkbench
