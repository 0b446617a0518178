import BasicWorkbench.MessageReading
import BasicWorkbench.Proofs.ResolvedItems
import BasicWorkbench.Proofs.SettingFields
import BasicWorkbench.Proofs.StepFrames

namespace BasicWorkbench

namespace ClientMessage

theorem read_of_shape {method : Text} {shape : ValueShape} {params v : Json}
    (known : ValueShape.ofMethods.lookup method = some shape)
    (served : method ∉ "shutdown".toList :: "exit".toList :: (unservedRequests ++ serverRequests))
    (fits : shape params = some v) : read method (some params) = .ok (.ofValue method v) := by
  simp only [List.mem_cons, List.mem_append, not_or] at served
  obtain ⟨shutdown, exit, unserved, own⟩ := served
  have unserved' : unservedRequests.contains method = false := by simpa using unserved
  have own' : serverRequests.contains method = false := by simpa using own
  simp only [read, if_neg shutdown, if_neg exit, unserved', own', known, Option.bind_some, fits]
  rfl

theorem untyped_served :
    let others := "shutdown".toList :: "exit".toList :: (unservedRequests ++ serverRequests)
    "workspace/didChangeConfiguration".toList ∉ others ∧ "completionItem/resolve".toList ∉ others := by
  simp only [unservedRequests, serverRequests, List.map_cons, List.map_nil, List.cons_append, List.nil_append,
    List.mem_cons, List.not_mem_nil, String.toList_inj, String.reduceEq, or_false, not_false_eq_true, and_self]

theorem read_configuration (v : Json) :
    read "workspace/didChangeConfiguration" (some (.obj [("settings", v)])) = .ok (.configured v) := by
  have known : ValueShape.ofMethods.lookup "workspace/didChangeConfiguration".toList =
      some (.object [.must "settings" .anything]) := rfl
  have fits : ValueShape.object [.must "settings" .anything] (.obj [("settings", v)]) =
      some (.obj [("settings", v)]) := rfl
  exact read_of_shape known untyped_served.1 fits

theorem read_item (label : Text) (v : Json) :
    ∃ fields, read "completionItem/resolve" (some (.obj [("label", .str label), ("data", v)])) =
      .ok (.resolveItem fields) ∧ fieldOf fields "data" = v := by
  have known : ValueShape.ofMethods.lookup "completionItem/resolve".toList = some ValueShape.completionItem := rfl
  have fits : ∃ fields, ValueShape.completionItem (.obj [("label", .str label), ("data", v)]) = some (.obj fields) ∧
      fieldOf fields "data" = v := by
    -- Data that is null is left out, and read as null again.
    cases v <;> exact ⟨_, rfl, rfl⟩
  obtain ⟨fields, fits, data⟩ := fits
  exact ⟨fields, read_of_shape known untyped_served.2 fits, data⟩

end ClientMessage

/-- The members among which a configuration has its settings. What is no object has none. -/
def settingMembers : Json → List (Text × Json)
  | .obj fields => sectionOf fields
  | _ => []

/-- The settings that the members of a section make, each read by itself. -/
def Settings.ofMembers (members : List (Text × Json)) : Settings where
  compilerPath := Setting.compilerPath.read members
  maxProblems := Setting.maxProblems.read members
  autoParentheses := Setting.autoParentheses.read members

theorem Settings.ofFields_eq (fields : List (Text × Json)) : Settings.ofFields fields = .ofMembers fields := by
  have path : (Settings.ofFields fields).compilerPath = _ := Setting.compilerPath_reads fields
  have limit : (Settings.ofFields fields).maxProblems = _ := Setting.maxProblems_reads fields
  have parentheses : (Settings.ofFields fields).autoParentheses = _ := Setting.autoParentheses_reads fields
  rw [ofMembers, ← path, ← limit, ← parentheses]

/-- Settings are read from objects; what is empty stands for an object without members. -/
def Json.IsConfiguration (v : Json) : Prop := (∃ fields, v = .obj fields) ∨ v.isGiven = false

theorem Settings.ofConfiguration_of_isConfiguration {v : Json} (h : v.IsConfiguration) :
    Settings.ofConfiguration v = .ok (.ofMembers (settingMembers v)) := by
  have initial : Settings.initial = .ofMembers [] := Settings.ofFields_eq []
  cases v with
  | obj fields =>
    show Except.ok (Settings.ofConfigurationFields fields) = _
    rw [Settings.ofConfigurationFields_eq, Settings.ofFields_eq]
    rfl
  | _ =>
    rcases h with ⟨fields, object⟩ | empty
    · cases object
    · simp [ofConfiguration, empty, initial, settingMembers]

theorem Settings.ofConfiguration_of_not {v : Json} (h : ¬v.IsConfiguration) :
    Settings.ofConfiguration v = .error (.noSettings v.kindWord) := by
  have given : v.isGiven = true := by
    by_contra empty
    exact h (.inr (eq_false_of_ne_true empty))
  cases v with
  | obj fields => exact absurd (.inl ⟨fields, rfl⟩) h
  | _ => simp [ofConfiguration, given]

/-- The message is handled to the end, without a fault. -/
def Turn.Finishes (t : Turn) : Prop := ∃ answer, t.outcome = .ok answer

namespace ServerState

theorem not_finishes_fault (s : ServerState) (f : Fault) : ¬(Turn.fault s f).Finishes := by
  rintro ⟨answer, h⟩
  cases h

theorem finishes_reanalyze (m : Machine) (s : ServerState) (uris : List Text) :
    (reanalyze m s uris).Finishes ↔ ∀ uri ∈ uris, (s.documentText m uri).isOk := by
  induction uris generalizing s with
  | nil => exact iff_of_true ⟨.nothing, rfl⟩ (List.forall_mem_nil _)
  | cons uri uris ih =>
    rw [List.forall_mem_cons]
    cases ht : s.documentText m uri with
    | error f =>
      have failed : reanalyze m s (uri :: uris) = .fault s f := by rw [reanalyze, ht]
      rw [failed]
      exact iff_of_false (not_finishes_fault s f) fun readable => Bool.false_ne_true readable.1
    | ok text =>
      have outcome : (reanalyze m s (uri :: uris)).outcome = (reanalyze m (s.analyze uri text) uris).outcome := by
        rw [reanalyze, ht]
      have later : (reanalyze m s (uri :: uris)).Finishes ↔ ∀ uri ∈ uris, (s.documentText m uri).isOk := by
        rw [Turn.Finishes, outcome]
        exact ih (s.analyze uri text)
      rw [later]
      exact (and_iff_right rfl).symm

theorem onConfigured_of_not (m : Machine) (env : Environment) (s : ServerState) {v : Json}
    (h : ¬v.IsConfiguration) : s.onConfigured m env v = .fault s (.noSettings v.kindWord) := by
  rw [onConfigured, Settings.ofConfiguration_of_not h]

theorem settings_onConfigured (m : Machine) (env : Environment) (s : ServerState) {v : Json}
    (h : v.IsConfiguration) :
    (s.onConfigured m env v).state.settings = (Settings.ofMembers (settingMembers v)).resolve env := by
  rw [onConfigured, Settings.ofConfiguration_of_isConfiguration h]
  obtain ⟨read, _, _, state, _⟩ := reanalyze_spec m
    { s with settings := (Settings.ofMembers (settingMembers v)).resolve env } s.analyzers.keys
  show (reanalyze m _ s.analyzers.keys).state.settings = _
  rw [state, (analyzeAll_frame _ read).1]

theorem finishes_onConfigured (m : Machine) (env : Environment) (s : ServerState) (v : Json) :
    (s.onConfigured m env v).Finishes ↔
      v.IsConfiguration ∧ ∀ uri ∈ s.analyzers.keys, (s.documentText m uri).isOk := by
  by_cases h : v.IsConfiguration
  · rw [onConfigured, Settings.ofConfiguration_of_isConfiguration h]
    refine Iff.trans ?_ (and_iff_right h).symm
    exact finishes_reanalyze m { s with settings := (Settings.ofMembers (settingMembers v)).resolve env } _
  · rw [onConfigured_of_not m env s h]
    exact iff_of_false (not_finishes_fault s _) fun both => h both.1

section Items

variable (s : ServerState) {fields : List (Text × Json)}

theorem onResolve_of_notes {notes : Option ItemNotes} (found : notesFor (fieldOf fields "data") = .ok notes) :
    s.onResolve fields = ⟨s, [], [], .ok (.item (notedFields fields notes))⟩ := by
  have resolved : resolveFields fields = .ok (notedFields fields notes) := by
    rw [resolveFields_eq, found]
    rfl
  rw [onResolve, resolved]

theorem onResolve_of_names {notes : ItemNotes} (h : (fieldOf fields "data").Names notes) :
    s.onResolve fields = ⟨s, [], [], .ok (.item (notedFields fields (some notes)))⟩ :=
  s.onResolve_of_notes (notesFor_of_names h)

theorem onResolve_of_neither (nothing : ¬∃ notes, (fieldOf fields "data").Names notes)
    (usable : ¬(fieldOf fields "data").Misnames) :
    s.onResolve fields = ⟨s, [], [], .ok (.item fields)⟩ := by
  rcases names_or_misnames_or_none (fieldOf fields "data") with names | misnames | none
  · exact absurd names nothing
  · exact absurd misnames usable
  · exact s.onResolve_of_notes none

theorem onResolve_of_misnames (h : (fieldOf fields "data").Misnames) :
    ∃ kind, s.onResolve fields = .fault s (.unusableKey kind) := by
  obtain ⟨kind, failed⟩ := notesFor_of_misnames h
  have unresolved : resolveFields fields = .error (.unusableKey kind) := by
    rw [resolveFields_eq, failed]
    rfl
  exact ⟨kind, by rw [onResolve, unresolved]⟩

theorem finishes_onResolve (fields : List (Text × Json)) :
    (s.onResolve fields).Finishes ↔ ¬(fieldOf fields "data").Misnames := by
  constructor
  · intro finishes misnames
    obtain ⟨kind, failed⟩ := s.onResolve_of_misnames misnames
    rw [failed] at finishes
    exact not_finishes_fault s _ finishes
  · intro usable
    by_cases names : ∃ notes, (fieldOf fields "data").Names notes
    · obtain ⟨notes, names⟩ := names
      rw [s.onResolve_of_names names]
      exact ⟨_, rfl⟩
    · rw [s.onResolve_of_neither names usable]
      exact ⟨_, rfl⟩

end Items

end ServerState

/-- What an editor sends as a configuration or as the data of an item comes to the server as it is. A
configuration is refused if it is no object and not empty, data if it has a list or an object in place of a name.
All else is handled to the end, as long as the documents can be read: settings of the wrong kind keep their
initial values, and data that names nothing leaves its item alone. -/
theorem untyped_data_handled_iff (m : Machine) (env : Environment) (s : ServerState) :
    (∀ v, ClientMessage.read "workspace/didChangeConfiguration" (some (.obj [("settings", v)])) =
        .ok (.configured v) ∧
      ((s.onConfigured m env v).Finishes ↔
        v.IsConfiguration ∧ ∀ uri ∈ s.analyzers.keys, (s.documentText m uri).isOk) ∧
      (v.IsConfiguration → (s.onConfigured m env v).state.settings =
        (Settings.ofMembers (settingMembers v)).resolve env) ∧
      (¬v.IsConfiguration → s.onConfigured m env v = .fault s (.noSettings v.kindWord))) ∧
    (∀ label v, ∃ fields,
      ClientMessage.read "completionItem/resolve" (some (.obj [("label", .str label), ("data", v)])) =
        .ok (.resolveItem fields) ∧ fieldOf fields "data" = v) ∧
    ∀ fields, ((s.onResolve fields).Finishes ↔ ¬(fieldOf fields "data").Misnames) ∧
      (∀ notes, (fieldOf fields "data").Names notes →
        s.onResolve fields = ⟨s, [], [], .ok (.item (notedFields fields (some notes)))⟩) ∧
      ((¬∃ notes, (fieldOf fields "data").Names notes) → ¬(fieldOf fields "data").Misnames →
        s.onResolve fields = ⟨s, [], [], .ok (.item fields)⟩) ∧
      ((fieldOf fields "data").Misnames → ∃ kind, s.onResolve fields = .fault s (.unusableKey kind)) := by
  refine ⟨?_, ClientMessage.read_item, ?_⟩
  · intro v
    exact ⟨ClientMessage.read_configuration v, s.finishes_onConfigured m env v,
      s.settings_onConfigured m env, s.onConfigured_of_not m env⟩
  · intro fields
    exact ⟨s.finishes_onResolve fields, fun notes => s.onResolve_of_names, s.onResolve_of_neither,
      s.onResolve_of_misnames⟩

theorem untyped_lists_refused :
    ¬((ServerState.fresh []).onConfigured ⟨[], [], []⟩ [] (.arr [.int 1])).Finishes ∧
      ¬((ServerState.fresh []).onResolve
        [("data", .obj [("type", .str "object"), ("name", .arr [.int 1])])]).Finishes := by
  obtain ⟨configured, _, resolved⟩ := untyped_data_handled_iff ⟨[], [], []⟩ [] (.fresh [])
  constructor
  · intro finishes
    have usable : (Json.arr [.int 1]).IsConfiguration := ((configured _).2.1.mp finishes).1
    rcases usable with ⟨fields, object⟩ | empty
    · cases object
    · cases empty
  · intro finishes
    have misnames : (Json.obj [("type", .str "object"), ("name", .arr [.int 1])]).Misnames := .object rfl rfl
    exact (resolved _).1.mp finishes misnames

end BasicWorkbench
