import BasicWorkbench.Proofs.OpenDocuments

namespace BasicWorkbench

/-- An event that is not about the document of the URI changes its text. -/
def Moment.Disturbs (x : Moment) (uri : Text) : Prop :=
  x.event.addressee? ≠ some uri ∧ (x.before.react x.event).1.text? uri ≠ x.before.text? uri

/-- The document of the URI was opened, and since then it was not closed and nothing but its own messages changed
its text. -/
def IsHeld (uri : Text) : List Moment → Prop := Since (·.Opens uri) fun x => x.Closes uri ∨ x.Disturbs uri

namespace ServerState

/-- The analyzer of the URI is that of its text, under settings of some time. -/
def IsAnalyzed (s : ServerState) (uri : Text) : Prop :=
  ∃ text settings, s.text? uri = some text ∧ s.analyzers.find? uri = some (analysis settings text)

theorem isAnalyzed_analyze {s : ServerState} {uri text : Text} (known : s.text? uri = some text) :
    (s.analyze uri text).IsAnalyzed uri := by
  refine ⟨text, s.settings, known, ?_⟩
  rw [analyze, OrderedMap.find?_insert, if_pos rfl]

theorem isAnalyzed_analyze_read {s : ServerState} {uri text : Text} {m : Machine}
    (known : (s.text? uri).isSome) (read : s.documentText m uri = .ok text) :
    (s.analyze uri text).IsAnalyzed uri := by
  obtain ⟨text', known⟩ := Option.isSome_iff_exists.mp known
  obtain rfl : text = text' := Except.ok.inj (read.symm.trans (documentText_of_text? known m))
  exact isAnalyzed_analyze known

section Steps

variable {s t : ServerState} {event : ServerEvent} {shown : List (Text × List Diagnostic)} {uri : Text}
  (step : Step s event t shown)

include step

theorem Step.isAnalyzed_of_opens (opens : Moment.Opens ⟨s, event⟩ uri) : t.IsAnalyzed uri := by
  obtain ⟨heeded, m, env, text, told⟩ := opens
  dsimp only at told
  subst told
  cases step with
  | still ignores => exact absurd heeded ignores.not_heeded
  | opened _ taken => exact isAnalyzed_analyze taken.text?_of_opened
  | asked _ named _ _ =>
    rcases named with ⟨position, told⟩ | told
    · cases told
    · cases told
  | ran hr _ => simp [run?, ClientMessage.compileJob?] at hr

/-- What is about another document, or about none, leaves the analyzer or makes it anew of the same text. -/
theorem Step.isAnalyzed_of_other (before : s.IsAnalyzed uri) (other : event.addressee? ≠ some uri)
    (same : t.text? uri = s.text? uri) : t.IsAnalyzed uri := by
  obtain ⟨text, settings, known, analyzed⟩ := before
  have known' : t.text? uri = some text := same.trans known
  cases about : event.addressee? with
  | some uri' =>
    have ne : uri' ≠ uri := by
      rintro rfl
      exact other about
    exact ⟨text, settings, known', (step.agree_of_other about ne).1.analyzer.trans analyzed⟩
  | none =>
    cases step with
    | still _ | greeted _ _ _ | left _ | notebook _ => exact ⟨text, settings, known', analyzed⟩
    | @configured m _ _ _ t read _ _ eq taken _ =>
      by_cases again : uri ∈ read.map (·.1)
      · obtain ⟨text', hr, analyzed'⟩ := t.find?_analyzeAll_of_mem again
        have held : t.text? uri = some text := by rw [eq]; exact known
        obtain rfl : text' = text := Except.ok.inj ((taken _ hr).symm.trans (documentText_of_text? held m))
        exact ⟨text', t.settings, known', analyzed'⟩
      · refine ⟨text, settings, known', ?_⟩
        rw [t.find?_analyzeAll_of_not_mem again, eq]
        exact analyzed
    | opened _ _ | changed _ _ _ | unread _ _ _ _ | saved _ _ | closed _ _ => cases about
    | asked _ named _ _ =>
      rcases named with ⟨position, rfl⟩ | rfl
      · cases about
      · cases about
    | ran hr _ =>
      rw [addressee?_of_run hr] at about
      cases about

/-- A document's own messages but its closing make its analyzer anew of its text, or leave both. -/
theorem Step.isAnalyzed_of_own (before : s.IsAnalyzed uri) (own : event.addressee? = some uri)
    (stays : ¬Moment.Closes ⟨s, event⟩ uri) : t.IsAnalyzed uri := by
  have known : (s.text? uri).isSome := by
    obtain ⟨text, _, known, _⟩ := before
    exact Option.isSome_of_mem known
  cases step with
  | still _ => exact before
  | greeted _ _ _ | left _ | configured _ _ _ _ _ | notebook _ =>
    simp [ServerEvent.addressee?, ClientMessage.addressee?, ClientMessage.compileJob?] at own
  | opened _ taken =>
    cases own
    exact isAnalyzed_analyze taken.text?_of_opened
  | @changed _ _ _ edits t text _ taken read =>
    cases own
    exact isAnalyzed_analyze_read (s := t.forgetFindings uri) (taken.text?_of_changed known) read
  | @unread m _ _ edits t document fault _ taken found failed =>
    cases own
    obtain ⟨text, known'⟩ := Option.isSome_iff_exists.mp (taken.text?_of_changed known)
    obtain ⟨document', found', read⟩ := documentText_eq_ok.mp (documentText_of_text? known' m)
    obtain rfl : document = document' := Except.ok.inj (found.symm.trans found')
    simp [failed] at read
  | saved _ read =>
    cases own
    exact isAnalyzed_analyze_read known read
  | @closed m env _ t running taken =>
    cases own
    exact absurd ⟨⟨running, t, taken⟩, m, env, rfl⟩ stays
  | asked _ named unknown _ =>
    obtain ⟨text, settings, _, analyzed⟩ := before
    rcases named with ⟨position, rfl⟩ | rfl
    · cases own
      simp [analyzed] at unknown
    · cases own
      simp [analyzed] at unknown
  | @ran _ run held _ _ =>
    obtain ⟨text, settings, known, analyzed⟩ := before
    obtain ⟨_, analyzers, workspace, _⟩ := s.keep_frame run.job.uri held
    refine ⟨text, settings, ?_, ?_⟩
    · rw [text?, workspace]
      exact known
    · rw [analyzers]
      exact analyzed

end Steps

end ServerState

theorem Session.isAnalyzed {past : List Moment} {s : ServerState} (session : Session past s) {uri : Text}
    (held : IsHeld uri past) : s.IsAnalyzed uri := by
  induction session with
  | start env => exact held.elim
  | @next past s event _ _ ih =>
    have step := s.step_react event
    rcases held with opens | ⟨kept, held⟩
    · exact step.isAnalyzed_of_opens opens
    · obtain ⟨stays, still⟩ := not_or.mp kept
      by_cases own : event.addressee? = some uri
      · exact step.isAnalyzed_of_own (ih held) own stays
      · refine step.isAnalyzed_of_other (ih held) own ?_
        by_contra changed
        exact still ⟨own, changed⟩

end BasicWorkbench
