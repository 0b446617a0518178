import BasicWorkbench.Proofs.StepFrames

namespace BasicWorkbench

def DocumentNews.uri : DocumentNews → Text
  | .opened uri _ | .closed uri | .changed uri _ => uri

/-- The URI of the document that a message is about; a run is about the document that shows its findings. -/
def ClientMessage.addressee? (message : ClientMessage) : Option Text :=
  match message with
  | .opened uri _ | .changed uri _ | .saved uri | .closed uri | .completion uri _ | .outline uri => some uri
  | _ => message.compileJob?.map (·.uri)

def ServerEvent.addressee? : ServerEvent → Option Text
  | .heard _ _ message => message.addressee?
  | .began job | .ended _ job _ => some job.uri

def shownOf (uri : Text) (sent : List ServerMessage) : List (List Diagnostic) :=
  ((shownIn sent).filter (·.1 = uri)).map (·.2)

theorem filter_eq_nil_of_not_mem {α : Type} {shown : List (Text × α)} {uri : Text}
    (absent : uri ∉ shown.map (·.1)) : shown.filter (·.1 = uri) = [] := by
  rw [List.filter_eq_nil_iff]
  intro entry he same
  exact absent (List.mem_map.mpr ⟨entry, he, of_decide_eq_true same⟩)

theorem shownOf_eq_nil {uri : Text} {sent : List ServerMessage} (unshown : uri ∉ (shownIn sent).map (·.1)) :
    shownOf uri sent = [] := by
  rw [shownOf, filter_eq_nil_of_not_mem unshown]
  rfl

/-- Only a document whose URI names a file can be opened. -/
theorem Workspace.hear_opened_eq_ok {w w' : Workspace} {uri text : Text} :
    w.hear (.opened uri text) = .ok w' ↔
      (∃ p, pathOfUri uri = .ok p) ∧
        w' = { w with documents := OrderedMap.insert (percentDecode uri) text w.documents } := by
  simp only [hear]
  cases pathOfUri uri with
  | error f => simp [bind, Except.bind]
  | ok p => simp [bind, Except.bind, eq_comm]

theorem Workspace.hear_frame {w w' : Workspace} {news : DocumentNews} (heard : w.hear news = .ok w') :
    w'.unit = w.unit ∧
      ∀ key, percentDecode news.uri ≠ key → w'.documents.find? key = w.documents.find? key := by
  cases news with
  | opened uri text =>
    obtain ⟨_, rfl⟩ := hear_opened_eq_ok.mp heard
    exact ⟨rfl, fun key ne => (OrderedMap.find?_insert ..).trans (if_neg ne)⟩
  | closed uri =>
    cases Except.ok.inj heard
    exact ⟨rfl, fun key ne => (OrderedMap.find?_erase ..).trans (if_neg ne)⟩
  | changed uri edits =>
    simp only [hear] at heard
    split at heard
    next text _ =>
      cases Except.ok.inj heard
      exact ⟨rfl, fun key ne => (OrderedMap.find?_insert ..).trans (if_neg ne)⟩
    next =>
      split at heard
      next =>
        cases Except.ok.inj heard
        exact ⟨rfl, fun _ _ => rfl⟩
      next => simp at heard

namespace ServerState

/-- The text that the editor has open under a URI, as the workspace knows it. -/
def text? (s : ServerState) (uri : Text) : Option Text :=
  s.workspace.bind fun w => w.documents.find? (percentDecode uri)

/-- Two states are the same to a document, its text apart. -/
structure Agree (uri : Text) (s t : ServerState) : Prop where
  settings : t.settings = s.settings
  stopped : t.stopped = s.stopped
  unit : t.workspace.map (·.unit) = s.workspace.map (·.unit)
  analyzer : t.analyzers.find? uri = s.analyzers.find? uri
  kept : t.compilerDiagnostics.find? uri = s.compilerDiagnostics.find? uri

namespace Agree

variable {uri : Text} {s t u : ServerState}

theorem refl (uri : Text) (s : ServerState) : Agree uri s s := ⟨rfl, rfl, rfl, rfl, rfl⟩

theorem symm (h : Agree uri s t) : Agree uri t s :=
  ⟨h.settings.symm, h.stopped.symm, h.unit.symm, h.analyzer.symm, h.kept.symm⟩

theorem trans (h : Agree uri s t) (h' : Agree uri t u) : Agree uri s u where
  settings := h'.settings.trans h.settings
  stopped := h'.stopped.trans h.stopped
  unit := h'.unit.trans h.unit
  analyzer := h'.analyzer.trans h.analyzer
  kept := h'.kept.trans h.kept

end Agree

theorem Takes.unit {s t : ServerState} {news : DocumentNews} (taken : s.Takes news t) :
    t.workspace.map (·.unit) = s.workspace.map (·.unit) := by
  obtain ⟨w, w', hw, heard, rfl⟩ := taken
  simp [hw, (Workspace.hear_frame heard).1]

theorem Takes.text?_of_other {s t : ServerState} {news : DocumentNews} {uri : Text} (taken : s.Takes news t)
    (apart : percentDecode news.uri ≠ percentDecode uri) : t.text? uri = s.text? uri := by
  obtain ⟨w, w', hw, heard, rfl⟩ := taken
  simp [text?, hw, (Workspace.hear_frame heard).2 _ apart]

theorem addressee?_of_run {s : ServerState} {event : ServerEvent} {run : CompileRun}
    (hr : s.run? event = some run) : event.addressee? = some run.job.uri := by
  cases event with
  | began job => simp [run?] at hr
  | ended start job result =>
    cases Option.some.inj hr
    rfl
  | heard m env message =>
    simp only [run?] at hr
    split at hr
    next => simp at hr
    next =>
      obtain ⟨job, hj, rfl⟩ := Option.map_eq_some_iff.mp hr
      cases message with
      | command name arguments => simp [ServerEvent.addressee?, ClientMessage.addressee?, hj]
      | _ => simp [ClientMessage.compileJob?] at hj

/-- An event that is about another document changes nothing for this one and shows nothing for it. -/
theorem Step.agree_of_other {s t : ServerState} {event : ServerEvent} {shown : List (Text × List Diagnostic)}
    (step : Step s event t shown) {other uri : Text} (about : event.addressee? = some other)
    (ne : other ≠ uri) : Agree uri s t ∧ uri ∉ shown.map (·.1) := by
  cases step with
  | still _ => exact ⟨.refl uri s, by simp⟩
  | greeted _ _ _ | left _ | configured _ _ _ _ _ | notebook _ =>
    simp [ServerEvent.addressee?, ClientMessage.addressee?, ClientMessage.compileJob?] at about
  | @opened _ _ uri' text t _ taken =>
    obtain rfl : uri' = other := Option.some.inj about
    obtain ⟨settings, analyzers, kept, stopped⟩ := taken.frame
    have analyzer : (t.analyze uri' text).analyzers.find? uri = s.analyzers.find? uri := by
      simp [analyze, OrderedMap.find?_insert, ne, analyzers]
    exact ⟨⟨settings, stopped, taken.unit, analyzer, congrArg (OrderedMap.find? · uri) kept⟩,
      by simpa using ne.symm⟩
  | @changed _ _ uri' edits t text _ taken _ =>
    obtain rfl : uri' = other := Option.some.inj about
    obtain ⟨settings, analyzers, kept, stopped⟩ := taken.frame
    have analyzer : ((t.forgetFindings uri').analyze uri' text).analyzers.find? uri =
        s.analyzers.find? uri := by
      simp [analyze, forgetFindings, OrderedMap.find?_insert, ne, analyzers]
    have held : ((t.forgetFindings uri').analyze uri' text).compilerDiagnostics.find? uri =
        s.compilerDiagnostics.find? uri := by
      simp [analyze, forgetFindings, OrderedMap.find?_erase, ne, kept]
    exact ⟨⟨settings, stopped, taken.unit, analyzer, held⟩, by simpa using ne.symm⟩
  | @unread _ _ uri' edits t document fault _ taken _ _ =>
    obtain rfl : uri' = other := Option.some.inj about
    obtain ⟨settings, analyzers, kept, stopped⟩ := taken.frame
    have held : (t.forgetFindings uri').compilerDiagnostics.find? uri = s.compilerDiagnostics.find? uri := by
      simp [forgetFindings, OrderedMap.find?_erase, ne, kept]
    exact ⟨⟨settings, stopped, taken.unit, congrArg (OrderedMap.find? · uri) analyzers, held⟩, by simp⟩
  | @saved _ _ uri' text _ _ =>
    obtain rfl : uri' = other := Option.some.inj about
    have analyzer : (s.analyze uri' text).analyzers.find? uri = s.analyzers.find? uri := by
      simp [analyze, OrderedMap.find?_insert, ne]
    exact ⟨⟨rfl, rfl, rfl, analyzer, rfl⟩, by simpa using ne.symm⟩
  | @closed _ _ uri' t _ taken =>
    obtain rfl : uri' = other := Option.some.inj about
    obtain ⟨settings, analyzers, kept, stopped⟩ := taken.frame
    have analyzer : (t.analyzers.erase uri').find? uri = s.analyzers.find? uri := by
      simp [OrderedMap.find?_erase, ne, analyzers]
    have held : (t.compilerDiagnostics.erase uri').find? uri = s.compilerDiagnostics.find? uri := by
      simp [OrderedMap.find?_erase, ne, kept]
    exact ⟨⟨settings, stopped, taken.unit, analyzer, held⟩, by simpa using ne.symm⟩
  | @asked _ _ message uri' text _ named _ _ =>
    obtain rfl : uri' = other := by
      rcases named with ⟨position, rfl⟩ | rfl
      · exact Option.some.inj about
      · exact Option.some.inj about
    have analyzer : (s.analyze uri' text).analyzers.find? uri = s.analyzers.find? uri := by
      simp [analyze, OrderedMap.find?_insert, ne]
    exact ⟨⟨rfl, rfl, rfl, analyzer, rfl⟩, by simp⟩
  | @ran _ run held hr _ =>
    obtain rfl : run.job.uri = other := Option.some.inj ((addressee?_of_run hr).symm.trans about)
    obtain ⟨settings, analyzers, workspace, stopped⟩ := s.keep_frame run.job.uri held
    have kept := (s.find?_keep run.job.uri uri held).trans (if_neg ne)
    exact ⟨⟨settings, stopped, congrArg _ workspace, congrArg (OrderedMap.find? · uri) analyzers, kept⟩,
      by simpa using ne.symm⟩

end ServerState

end BasicWorkbench
