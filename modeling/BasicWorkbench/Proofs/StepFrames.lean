import BasicWorkbench.Proofs.RunSteps

namespace BasicWorkbench

namespace ServerState

theorem Takes.frame {s t : ServerState} {news : DocumentNews} (taken : s.Takes news t) :
    t.settings = s.settings ∧ t.analyzers = s.analyzers ∧ t.compilerDiagnostics = s.compilerDiagnostics ∧
      t.stopped = s.stopped := by
  obtain ⟨w, w', _, _, rfl⟩ := taken
  exact ⟨rfl, rfl, rfl, rfl⟩

theorem keep_frame (s : ServerState) (uri : Text) (held : Option (List Diagnostic)) :
    (s.keep uri held).settings = s.settings ∧ (s.keep uri held).analyzers = s.analyzers ∧
      (s.keep uri held).workspace = s.workspace ∧ (s.keep uri held).stopped = s.stopped := by
  cases held <;> exact ⟨rfl, rfl, rfl, rfl⟩

theorem find?_keep (s : ServerState) (uri other : Text) (held : Option (List Diagnostic)) :
    (s.keep uri held).compilerDiagnostics.find? other =
      if uri = other then held else s.compilerDiagnostics.find? other := by
  cases held with
  | none => exact OrderedMap.find?_erase ..
  | some diagnostics => exact OrderedMap.find?_insert ..

theorem findings_keep (s : ServerState) (uri other : Text) (held : Option (List Diagnostic)) :
    (s.keep uri held).findings other = if uri = other then held.getD [] else s.findings other := by
  unfold findings
  rw [find?_keep]
  split <;> rfl

theorem shownAfterRun_of_analyzer {s : ServerState} {uri : Text} {analyzer : Analyzer}
    (h : s.analyzers.find? uri = some analyzer) : s.shownAfterRun uri = s.shownFor uri := by
  simp [shownAfterRun, h]

theorem shownAfterRun_of_no_analyzer {s : ServerState} {uri : Text} (h : s.analyzers.find? uri = none) :
    s.shownAfterRun uri = s.findings uri := by
  simp [shownAfterRun, h]

theorem analyzeAll_frame (s : ServerState) (read : List (Text × Text)) :
    (s.analyzeAll read).settings = s.settings ∧ (s.analyzeAll read).workspace = s.workspace ∧
      (s.analyzeAll read).compilerDiagnostics = s.compilerDiagnostics ∧
      (s.analyzeAll read).stopped = s.stopped := by
  induction read generalizing s with
  | nil => exact ⟨rfl, rfl, rfl, rfl⟩
  | cons document read ih => exact ih (s.analyze document.1 document.2)

theorem find?_analyzeAll_of_not_mem (s : ServerState) {read : List (Text × Text)} {uri : Text}
    (h : uri ∉ read.map (·.1)) : (s.analyzeAll read).analyzers.find? uri = s.analyzers.find? uri := by
  induction read generalizing s with
  | nil => rfl
  | cons document read ih =>
    simp only [List.map_cons, List.mem_cons, not_or] at h
    have first : (s.analyze document.1 document.2).analyzers.find? uri = s.analyzers.find? uri := by
      simp [analyze, OrderedMap.find?_insert, Ne.symm h.1]
    exact (ih (s.analyze document.1 document.2) h.2).trans first

/-- The last text of a URI is the one that counts. -/
theorem find?_analyzeAll_of_mem (s : ServerState) {read : List (Text × Text)} {uri : Text}
    (h : uri ∈ read.map (·.1)) :
    ∃ text, (uri, text) ∈ read ∧
      (s.analyzeAll read).analyzers.find? uri = some (analysis s.settings text) := by
  induction read generalizing s with
  | nil => simp at h
  | cons document read ih =>
    by_cases later : uri ∈ read.map (·.1)
    · obtain ⟨text, hm, eq⟩ := ih (s.analyze document.1 document.2) later
      exact ⟨text, List.mem_cons_of_mem _ hm, eq⟩
    · have here : uri = document.1 := by
        rcases List.mem_cons.mp h with eq | hm
        · exact eq
        · exact absurd hm later
      subst here
      refine ⟨document.2, List.mem_cons_self, ?_⟩
      have kept := find?_analyzeAll_of_not_mem (s.analyze document.1 document.2) later
      exact kept.trans (by simp [analyze, OrderedMap.find?_insert])

theorem shownAfterRun_analyze (s : ServerState) (uri text : Text) :
    (s.analyze uri text).shownAfterRun uri = (s.analyze uri text).shownFor uri := by
  have known : (s.analyze uri text).analyzers.find? uri = some (analysis s.settings text) := by
    simp [analyze, OrderedMap.find?_insert]
  exact shownAfterRun_of_analyzer known

/-- Whatever is shown for a URI can be told from the state afterwards. -/
theorem Step.shown_eq {s t : ServerState} {event : ServerEvent}
    {shown : List (Text × List Diagnostic)} (step : Step s event t shown) {uri : Text}
    {diagnostics : List Diagnostic} (hm : (uri, diagnostics) ∈ shown) :
    diagnostics = t.shownAfterRun uri := by
  cases step with
  | still _ | greeted _ _ _ | left _ | unread _ _ _ _ | asked _ _ _ _ | notebook _ => simp at hm
  | opened _ _ | changed _ _ _ | saved _ _ =>
    obtain ⟨rfl, rfl⟩ : uri = _ ∧ diagnostics = _ := by simpa using hm
    rw [shownAfterRun_analyze]
  | @closed _ _ other t _ _ =>
    obtain ⟨rfl, rfl⟩ : uri = _ ∧ diagnostics = [] := by simpa using hm
    rw [shownAfterRun_of_no_analyzer]
    · simp [findings, forgetFindings, OrderedMap.find?_erase]
    · simp [forgetFindings, OrderedMap.find?_erase]
  | @configured m env configuration settings t read _ _ eq texts _ =>
    obtain ⟨document, hd, eq⟩ := List.mem_map.mp hm
    obtain ⟨rfl, rfl⟩ := Prod.mk.inj eq
    obtain ⟨text, ht, known⟩ := t.find?_analyzeAll_of_mem (List.mem_map.mpr ⟨document, hd, rfl⟩)
    obtain rfl : document.2 = text := Except.ok.inj ((texts document hd).symm.trans (texts _ ht))
    obtain ⟨settings, _, kept, _⟩ := t.analyzeAll_frame read
    rw [shownAfterRun_of_analyzer known, shownFor_analyze]
    simp [shownFor, diagnosticsFor, findings, known, settings, kept]
  | ran _ _ =>
    obtain ⟨rfl, rfl⟩ : uri = _ ∧ diagnostics = _ := by simpa using hm
    rfl

end ServerState

end BasicWorkbench
