import BasicWorkbench.Proofs.StepFrames

namespace BasicWorkbench

namespace Moment

def IsNews (x : Moment) (uri : Text) : Prop := x.event.news? = some uri

/-- A run comes to its end and leaves its findings behind for the URI, or none if there is a program. -/
def Leaves (x : Moment) (uri : Text) (held : Option (List Diagnostic)) : Prop :=
  ∃ run, x.before.run? x.event = some run ∧ run.job.uri = uri ∧ run.findings? = some held

/-- Earlier findings for the URI are dropped, or those of a run take their place. -/
def Supersedes (x : Moment) (uri : Text) : Prop :=
  x.IsNews uri ∧ x.IsHeeded ∨ ∃ held, x.Leaves uri held

/-- What came between the beginning and the end of the run that ends with a moment, its beginning
included if that is a moment of its own. -/
inductive RanDuring : Moment → List Moment → List Moment → Prop
  | atOnce {s m env message before} : RanDuring ⟨s, .heard m env message⟩ [] before
  | beside {s t job result between before} :
      RanDuring ⟨s, .ended before.length job result⟩ (between ++ [⟨t, .began job⟩]) before

end Moment

namespace ServerState

theorem not_leaves_of_message {s : ServerState} {m : Machine} {env : Environment}
    {message : ClientMessage} (hj : message.compileJob? = none) (uri : Text)
    (held : Option (List Diagnostic)) :
    ¬Moment.Leaves ⟨s, .heard m env message⟩ uri held := by
  intro left
  obtain ⟨run, hr, _⟩ := left
  simp [run?, hj] at hr

theorem news?_of_run {s : ServerState} {event : ServerEvent} {run : CompileRun}
    (hr : s.run? event = some run) :
    event.news? = none := by
  rcases run?_cases hr with ⟨start, rfl⟩ | ⟨m, env, name, arguments, rfl⟩
  · rfl
  · rfl

theorem leaves_iff_of_run {s : ServerState} {event : ServerEvent} {run : CompileRun}
    {held : Option (List Diagnostic)} (hr : s.run? event = some run) (hf : run.findings? = some held)
    (uri : Text) (other : Option (List Diagnostic)) :
    Moment.Leaves ⟨s, event⟩ uri other ↔ run.job.uri = uri ∧ held = other := by
  simp [Moment.Leaves, hr, hf]

theorem Ignores.not_leaves {s : ServerState} {event : ServerEvent} (ignores : s.Ignores event)
    (uri : Text) (held : Option (List Diagnostic)) : ¬Moment.Leaves ⟨s, event⟩ uri held := by
  intro left
  obtain ⟨run, hr, _, hf⟩ := left
  have nothing : run.findings? = none := by
    rcases run?_cases hr with ⟨start, rfl⟩ | ⟨m, env, name, arguments, rfl⟩
    · exact ignores
    · rcases ignores with stopped | nothing
      · simp [run?, stopped] at hr
      · exact nothing run hr
  simp [hf] at nothing

theorem Ignores.not_supersedes {s : ServerState} {event : ServerEvent} (ignores : s.Ignores event)
    (uri : Text) : ¬Moment.Supersedes ⟨s, event⟩ uri := by
  intro supersedes
  rcases supersedes with ⟨_, heeded⟩ | ⟨held, left⟩
  · exact ignores.not_heeded heeded
  · exact ignores.not_leaves uri held left

theorem find?_findings_of_message {s : ServerState} {m : Machine} {env : Environment}
    {message : ClientMessage} {kept : OrderedMap (List Diagnostic)}
    (news : (ServerEvent.heard m env message).news? = none) (hj : message.compileJob? = none)
    (same : kept = s.compilerDiagnostics) (uri : Text) (diagnostics : List Diagnostic) :
    kept.find? uri = some diagnostics ↔
      Moment.Leaves ⟨s, .heard m env message⟩ uri (some diagnostics) ∨
        ¬Moment.Supersedes ⟨s, .heard m env message⟩ uri ∧
          s.compilerDiagnostics.find? uri = some diagnostics := by
  have left : ∀ held, ¬Moment.Leaves ⟨s, .heard m env message⟩ uri held := not_leaves_of_message hj uri
  simp [Moment.Supersedes, Moment.IsNews, same, left, news]

/-- News that are heeded take away the findings for their URI alone. -/
theorem find?_findings_of_news {s : ServerState} {m : Machine} {env : Environment}
    {message : ClientMessage} {other : Text} {kept : OrderedMap (List Diagnostic)}
    (news : (ServerEvent.heard m env message).news? = some other)
    (heeded : Moment.IsHeeded ⟨s, .heard m env message⟩) (hj : message.compileJob? = none)
    (dropped : kept = s.compilerDiagnostics.erase other) (uri : Text) (diagnostics : List Diagnostic) :
    kept.find? uri = some diagnostics ↔
      Moment.Leaves ⟨s, .heard m env message⟩ uri (some diagnostics) ∨
        ¬Moment.Supersedes ⟨s, .heard m env message⟩ uri ∧
          s.compilerDiagnostics.find? uri = some diagnostics := by
  have left : ∀ held, ¬Moment.Leaves ⟨s, .heard m env message⟩ uri held := not_leaves_of_message hj uri
  rw [dropped, OrderedMap.find?_erase]
  simp only [Moment.Supersedes, Moment.IsNews, news, heeded, left, and_true, exists_false, or_false,
    false_or]
  by_cases h : other = uri
  · simp [h]
  · simp [h]

/-- The findings that are kept for a URI after an event are those that a run leaves behind with it, or
earlier ones that it does not supersede. -/
theorem Step.find?_findings {s t : ServerState} {event : ServerEvent}
    {shown : List (Text × List Diagnostic)} (step : Step s event t shown) (uri : Text)
    (diagnostics : List Diagnostic) :
    t.compilerDiagnostics.find? uri = some diagnostics ↔
      Moment.Leaves ⟨s, event⟩ uri (some diagnostics) ∨
        ¬Moment.Supersedes ⟨s, event⟩ uri ∧ s.compilerDiagnostics.find? uri = some diagnostics := by
  cases step with
  | still ignores => simp [ignores.not_leaves uri, ignores.not_supersedes uri]
  | greeted _ _ _ => exact find?_findings_of_message (s := s) rfl rfl rfl uri diagnostics
  | left _ => exact find?_findings_of_message (s := s) rfl rfl rfl uri diagnostics
  | opened _ taken => exact find?_findings_of_message (s := s) rfl rfl taken.frame.2.2.1 uri diagnostics
  | saved _ _ => exact find?_findings_of_message (s := s) rfl rfl rfl uri diagnostics
  | asked _ named _ _ =>
    rcases named with ⟨position, rfl⟩ | rfl
    · exact find?_findings_of_message (s := s) rfl rfl rfl uri diagnostics
    · exact find?_findings_of_message (s := s) rfl rfl rfl uri diagnostics
  | @configured m env configuration settings t read _ _ eq _ _ =>
    have same : (t.analyzeAll read).compilerDiagnostics = s.compilerDiagnostics := by
      rw [(t.analyzeAll_frame read).2.2.1, eq]
    exact find?_findings_of_message (s := s) rfl rfl same uri diagnostics
  | notebook _ => exact find?_findings_of_message (s := s) rfl rfl rfl uri diagnostics
  | @changed m env other edits t text running taken read =>
    obtain ⟨document, found, _⟩ := documentText_eq_ok.mp read
    have heeded : Moment.IsHeeded ⟨s, .heard m env (.changed other edits)⟩ :=
      ⟨running, t, document, taken, found⟩
    apply find?_findings_of_news rfl heeded rfl
    simp [analyze, forgetFindings, taken.frame.2.2.1]
  | @unread m env other edits t document fault running taken found failed =>
    have heeded : Moment.IsHeeded ⟨s, .heard m env (.changed other edits)⟩ :=
      ⟨running, t, document, taken, found⟩
    apply find?_findings_of_news rfl heeded rfl
    simp [forgetFindings, taken.frame.2.2.1]
  | @closed m env other t running taken =>
    have heeded : Moment.IsHeeded ⟨s, .heard m env (.closed other)⟩ := ⟨running, t, taken⟩
    apply find?_findings_of_news rfl heeded rfl
    simp [forgetFindings, taken.frame.2.2.1]
  | @ran _ run held hr hf =>
    rw [find?_keep]
    simp only [Moment.Supersedes, leaves_iff_of_run hr hf]
    by_cases h : run.job.uri = uri
    · simp [h]
    · simp [h, Moment.IsNews, news?_of_run hr]

end ServerState

/-- The findings that the server keeps were left behind by a run and nothing took their place since. -/
theorem Session.find?_findings {past : List Moment} {s : ServerState} (session : Session past s)
    (uri : Text) (diagnostics : List Diagnostic) :
    s.compilerDiagnostics.find? uri = some diagnostics ↔
      Since (·.Leaves uri (some diagnostics)) (·.Supersedes uri) past := by
  induction session with
  | start env => simp [ServerState.fresh, OrderedMap.find?, Since]
  | @next past s event _ _ ih =>
    rw [(s.step_react event).find?_findings uri diagnostics, ih]
    rfl

/-- A run that leaves its findings behind began at a moment of the session. -/
theorem Moment.Leaves.ranDuring {x : Moment} {earlier : List Moment} {uri : Text}
    {held : Option (List Diagnostic)} (left : x.Leaves uri held) (follows : CanFollow earlier x.event) :
    ∃ during before, earlier = during ++ before ∧ x.RanDuring during before := by
  obtain ⟨s, event⟩ := x
  obtain ⟨run, hr, _⟩ := left
  rcases ServerState.run?_cases hr with ⟨start, rfl⟩ | ⟨m, env, name, arguments, rfl⟩
  · obtain ⟨between, t, before, rfl, rfl⟩ := began_of_mem_runsUnderWay follows
    exact ⟨between ++ [⟨t, .began run.job⟩], before, by simp, .beside⟩
  · exact ⟨[], earlier, rfl, .atOnce⟩

/-- The diagnostics of the URI come from the run that ends with the moment `x`: it began after `before`,
and nothing in `later` took their place. -/
structure ComesFrom (uri : Text) (diagnostics : List Diagnostic) (past later : List Moment) (x : Moment)
    (during before : List Moment) : Prop where
  split : past = later ++ x :: (during ++ before)
  ran : x.RanDuring during before
  left : x.Leaves uri (some diagnostics)
  kept : ∀ y ∈ later, ¬y.Supersedes uri

theorem ComesFrom.of_ended {s t : ServerState} {job : CompileJob}
    {result : Except Fault (Verdict × Text)} {diagnostics : List Diagnostic}
    (between before : List Moment)
    (hf : (CompileRun.mk job result).findings? = some (some diagnostics)) :
    ComesFrom job.uri diagnostics
      (⟨s, .ended before.length job result⟩ :: (between ++ ⟨t, .began job⟩ :: before)) []
      ⟨s, .ended before.length job result⟩ (between ++ [⟨t, .began job⟩]) before :=
  ⟨by simp, .beside, ⟨_, rfl, rfl, hf⟩, by simp⟩

theorem Moment.Leaves.not_news {x : Moment} {uri : Text} {held : Option (List Diagnostic)}
    (left : x.Leaves uri held) :
    ¬x.IsNews uri := by
  obtain ⟨s, event⟩ := x
  obtain ⟨run, hr, _⟩ := left
  rw [IsNews, ServerState.news?_of_run hr]
  simp

theorem Moment.Leaves.unique {x : Moment} {uri : Text} {held held' : Option (List Diagnostic)}
    (left : x.Leaves uri held) (left' : x.Leaves uri held') : held = held' := by
  obtain ⟨run, hr, _, hf⟩ := left
  obtain ⟨run', hr', _, hf'⟩ := left'
  obtain rfl : run = run' := Option.some.inj (hr.symm.trans hr')
  exact Option.some.inj (hf.symm.trans hf')

theorem Session.kept_iff_comesFrom {past : List Moment} {s : ServerState} (session : Session past s)
    (uri : Text) (diagnostics : List Diagnostic) :
    s.compilerDiagnostics.find? uri = some diagnostics ↔
      ∃ later x during before, ComesFrom uri diagnostics past later x during before := by
  rw [session.find?_findings, since_iff_split]
  constructor
  · intro h
    obtain ⟨later, x, earlier, rfl, left, kept⟩ := h
    obtain ⟨during, before, rfl, ran⟩ := left.ranDuring session.earlier.2
    exact ⟨later, x, during, before, rfl, ran, left, kept⟩
  · intro h
    obtain ⟨later, x, during, before, origin⟩ := h
    exact ⟨later, x, during ++ before, origin.split, origin.left, origin.kept⟩

/-- Compiler diagnostics are kept for a URI exactly if they come from a run. That run began after the last
news of the document exactly if none came while it was under way and none that came later was refused. What
is published can be told from what is kept. -/
theorem kept_findings_current_iff {past : List Moment} {s : ServerState} (session : Session past s)
    (uri : Text) (diagnostics : List Diagnostic) :
    (s.compilerDiagnostics.find? uri = some diagnostics ↔
        ∃ later x during before, ComesFrom uri diagnostics past later x during before) ∧
      (∀ later x during before, ComesFrom uri diagnostics past later x during before →
        ((∀ y ∈ later ++ x :: during, ¬y.IsNews uri) ↔
          (∀ y ∈ during, ¬y.IsNews uri) ∧ ¬∃ y ∈ later, y.IsNews uri ∧ ¬y.IsHeeded)) ∧
      ∀ event shown, .publish uri shown ∈ (s.react event).2 →
        shown = (s.react event).1.shownAfterRun uri := by
  refine ⟨session.kept_iff_comesFrom uri diagnostics, ?_, ?_⟩
  · intro later x during before origin
    constructor
    · intro unedited
      refine ⟨fun y hy => unedited y (by simp [hy]), ?_⟩
      intro refused
      obtain ⟨y, hy, news, _⟩ := refused
      exact unedited y (by simp [hy]) news
    · intro h y hy news
      obtain ⟨undisturbed, taken⟩ := h
      rcases List.mem_append.mp hy with hl | hd
      · by_cases heeded : y.IsHeeded
        · exact origin.kept y hl (.inl ⟨news, heeded⟩)
        · exact taken ⟨y, hl, news, heeded⟩
      · rcases List.mem_cons.mp hd with rfl | hd
        · exact origin.left.not_news news
        · exact undisturbed y hd news
  · intro event shown sent
    exact (s.step_react event).shown_eq (mem_shownIn.mpr sent)

/-- A run can end after the document was changed, and then what it found is kept for a text that is gone. -/
theorem kept_findings_stale_after_race :
    ∃ past s uri diagnostics later x during before, Session past s ∧
      s.compilerDiagnostics.find? uri = some diagnostics ∧
      ComesFrom uri diagnostics past later x during before ∧
      ¬∀ y ∈ later ++ x :: during, ¬y.IsNews uri := by
  let uri : Text := "file:/p"
  let job : CompileJob := ⟨uri, "/p"⟩
  let result : Except Fault (Verdict × Text) := .ok (.failed [⟨"boom", none⟩], [])
  let diagnostics : List Diagnostic := [⟨.onLine 0 0 10, "boom", .compiler⟩]
  let greeting : ServerEvent := .heard ⟨[], [], []⟩ [] (.greeting ⟨.null, none, none, [], false, false⟩)
  let opening : ServerEvent := .heard ⟨[], [], []⟩ [] (.opened uri "x = 1")
  let edit : ServerEvent := .heard ⟨[], [], []⟩ [] (.changed uri [⟨none, "x = 2"⟩])
  let greeted : ServerState := ((ServerState.fresh []).react greeting).1
  let opened : ServerState := (greeted.react opening).1
  let before : List Moment := [⟨greeted, opening⟩, ⟨.fresh [], greeting⟩]
  have begun : Session (⟨opened, .began job⟩ :: before) opened :=
    .next _ (.next _ (.next _ (.start []) trivial) trivial) trivial
  have ended := Session.next (.ended 2 job result) (.next edit begun trivial) (.head _)
  have found : (CompileRun.mk job result).findings? = some (some diagnostics) := rfl
  have origin := @ComesFrom.of_ended (opened.react edit).1 opened _ _ _ [⟨opened, edit⟩] before found
  have current := kept_findings_current_iff ended uri diagnostics
  refine ⟨_, _, _, _, _, _, _, _, ended, current.1.mpr ⟨_, _, _, _, origin⟩, origin, ?_⟩
  intro unedited
  exact ((current.2.1 _ _ _ _ origin).mp unedited).1 _ (.head _) rfl

end BasicWorkbench
