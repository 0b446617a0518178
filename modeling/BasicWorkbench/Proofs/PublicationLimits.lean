import BasicWorkbench.Proofs.StepFrames

namespace BasicWorkbench

theorem Settings.ofConfigurationFields_nonneg (fields : List (Text × Json)) :
    0 ≤ (Settings.ofConfigurationFields fields).maxProblems := by
  have ofFields : ∀ inner, 0 ≤ (Settings.ofFields inner).maxProblems := by
    intro inner
    simp only [Settings.ofFields]
    split
    · split
      · assumption
      · decide
    · decide
  unfold Settings.ofConfigurationFields
  split
  · exact ofFields _
  · decide
  · exact ofFields _

theorem Settings.ofConfiguration_nonneg {configuration : Json} {settings : Settings}
    (h : Settings.ofConfiguration configuration = .ok settings) : 0 ≤ settings.maxProblems := by
  unfold Settings.ofConfiguration at h
  split at h
  · cases Except.ok.inj h
    exact Settings.ofConfigurationFields_nonneg _
  · split at h
    · simp at h
    · cases Except.ok.inj h
      decide

theorem Settings.resolve_maxProblems (settings : Settings) (env : Environment) :
    (settings.resolve env).maxProblems = settings.maxProblems := by
  unfold Settings.resolve
  split <;> rfl

namespace ServerState

theorem Step.limit_nonneg {s t : ServerState} {event : ServerEvent}
    {shown : List (Text × List Diagnostic)} (step : Step s event t shown)
    (h : 0 ≤ s.settings.maxProblems) : 0 ≤ t.settings.maxProblems := by
  cases step with
  | still _ => exact h
  | greeted _ _ settings =>
    rcases settings with rfl | ⟨fields, rfl⟩
    · exact h
    · rw [Settings.resolve_maxProblems]
      exact Settings.ofConfigurationFields_nonneg fields
  | left _ => exact h
  | opened _ taken => simpa [analyze, taken.frame.1] using h
  | changed _ taken _ => simpa [analyze, forgetFindings, taken.frame.1] using h
  | unread _ taken _ _ => simpa [forgetFindings, taken.frame.1] using h
  | saved _ _ => exact h
  | closed _ taken => simpa [forgetFindings, taken.frame.1] using h
  | asked _ _ _ _ => exact h
  | configured _ given eq _ _ =>
    subst eq
    rw [(analyzeAll_frame _ _).1, Settings.resolve_maxProblems]
    exact Settings.ofConfiguration_nonneg given
  | notebook _ => exact h
  | ran _ _ => rwa [(keep_frame _ _ _).1]

end ServerState

/-- Whatever an editor configures, the limit is a number of problems. -/
theorem Session.limit_nonneg {past : List Moment} {s : ServerState} (session : Session past s) :
    0 ≤ s.settings.maxProblems := by
  induction session with
  | start env =>
    rw [ServerState.fresh, Settings.resolve_maxProblems]
    decide
  | next event _ _ ih => exact (ServerState.step_react _ event).limit_nonneg ih

theorem limitDiagnostics_length {limit : Int} (h : 0 ≤ limit) (diagnostics : List Diagnostic) :
    ((limitDiagnostics limit diagnostics).length : Int) ≤ limit := by
  have := List.length_take_le limit.toNat diagnostics
  unfold limitDiagnostics
  omega

theorem problemDiagnostics_length {problems : List Problem} {diagnostics : List Diagnostic}
    (h : problemDiagnostics problems = .ok diagnostics) : diagnostics.length = problems.length := by
  unfold problemDiagnostics at h
  induction problems generalizing diagnostics with
  | nil =>
    cases Except.ok.inj h
    rfl
  | cons problem problems ih =>
    rw [List.mapM_cons] at h
    cases hp : problem.diagnostic with
    | error f => simp [hp, bind, Except.bind] at h
    | ok diagnostic =>
      cases hr : problems.mapM Problem.diagnostic with
      | error f => simp [hp, hr, bind, Except.bind] at h
      | ok rest =>
        obtain rfl : diagnostic :: rest = diagnostics := by
          simpa [hp, hr, bind, Except.bind, pure, Except.pure] using h
        simp [ih hr]

namespace ServerState

theorem shownFor_length {s : ServerState} (h : 0 ≤ s.settings.maxProblems) (uri : Text) :
    ((s.shownFor uri).length : Int) ≤ s.settings.maxProblems :=
  limitDiagnostics_length h _

/-- What a step shows keeps to the limit, unless a run ended for a URI without an analyzer. -/
theorem Step.shown_length {s t : ServerState} {event : ServerEvent}
    {shown : List (Text × List Diagnostic)} (step : Step s event t shown)
    (h : 0 ≤ t.settings.maxProblems) {uri : Text} {diagnostics : List Diagnostic}
    (hm : (uri, diagnostics) ∈ shown) :
    (diagnostics.length : Int) ≤ t.settings.maxProblems ∨
      ∃ run, s.run? event = some run ∧ run.job.uri = uri ∧ run.findings? = some (some diagnostics) ∧
        s.analyzers.find? uri = none := by
  cases step with
  | still _ | greeted _ _ _ | left _ | unread _ _ _ _ | asked _ _ _ _ | notebook _ => simp at hm
  | opened _ _ | changed _ _ _ | saved _ _ =>
    obtain ⟨rfl, rfl⟩ : uri = _ ∧ diagnostics = _ := by simpa using hm
    exact .inl (shownFor_length h _)
  | closed _ _ =>
    obtain ⟨rfl, rfl⟩ : uri = _ ∧ diagnostics = [] := by simpa using hm
    exact .inl (by simpa using h)
  | configured _ _ _ _ _ =>
    obtain ⟨document, _, eq⟩ := List.mem_map.mp hm
    obtain ⟨rfl, rfl⟩ := Prod.mk.inj eq
    rw [(analyzeAll_frame _ _).1] at h ⊢
    exact .inl (limitDiagnostics_length h _)
  | @ran _ run held hr hf =>
    obtain ⟨rfl, rfl⟩ : uri = _ ∧ diagnostics = _ := by simpa using hm
    have frame := (s.keep_frame run.job.uri held).2.1
    cases ha : s.analyzers.find? run.job.uri with
    | some analyzer =>
      rw [shownAfterRun_of_analyzer (by rwa [frame])]
      exact .inl (shownFor_length h _)
    | none =>
      rw [shownAfterRun_of_no_analyzer (by rwa [frame]), findings_keep, if_pos rfl]
      cases held with
      | none => exact .inl (by simpa using h)
      | some diagnostics => exact .inr ⟨run, hr, rfl, hf, rfl⟩

end ServerState

/-- The end of a run for a URI without an analyzer shows all that the run found. -/
theorem react_of_unanalyzed_run {s : ServerState} {event : ServerEvent} {run : CompileRun}
    {diagnostics : List Diagnostic} (hr : s.run? event = some run)
    (hf : run.findings? = some (some diagnostics)) (ha : s.analyzers.find? run.job.uri = none) :
    (s.react event).1.settings = s.settings ∧ shownIn (s.react event).2 = [(run.job.uri, diagnostics)] := by
  obtain ⟨state, shown⟩ := ServerState.react_of_run hr
  rcases s.onCompiled_cases run with ⟨nothing, _⟩ | ⟨held, found, kept, published⟩
  · simp [hf] at nothing
  · obtain rfl : some diagnostics = held := Option.some.inj (hf.symm.trans found)
    rw [state, shown, kept, published]
    refine ⟨(s.keep_frame _ _).1, ?_⟩
    rw [ServerState.shownAfterRun_of_no_analyzer (by rwa [(s.keep_frame _ _).2.1]), ServerState.findings_keep]
    simp

/-- Diagnostics over the limit are published for a URI exactly at the end of a run that found more problems
than that for it, where the URI has no analyzer. -/
theorem publishes_over_limit_iff {past : List Moment} {s : ServerState} (session : Session past s)
    (event : ServerEvent) (uri : Text) :
    (∃ diagnostics, .publish uri diagnostics ∈ (s.react event).2 ∧
        (s.react event).1.settings.maxProblems < diagnostics.length) ↔
      ∃ run problems output diagnostics, s.run? event = some run ∧ run.job.uri = uri ∧
        run.result = .ok (.failed problems, output) ∧ problemDiagnostics problems = .ok diagnostics ∧
        s.analyzers.find? uri = none ∧ s.settings.maxProblems < problems.length := by
  have step := s.step_react event
  constructor
  · intro h
    obtain ⟨diagnostics, sent, exceeds⟩ := h
    rcases step.shown_length (step.limit_nonneg session.limit_nonneg) (mem_shownIn.mpr sent) with
      within | ⟨run, hr, hu, hf, ha⟩
    · omega
    · obtain ⟨problems, output, result, hp⟩ := CompileRun.findings?_eq_some_some.mp hf
      have length := problemDiagnostics_length hp
      have limit := congrArg Settings.maxProblems (react_of_unanalyzed_run hr hf (hu ▸ ha)).1
      exact ⟨run, problems, output, diagnostics, hr, hu, result, hp, ha, by omega⟩
  · intro h
    obtain ⟨run, problems, output, diagnostics, hr, rfl, result, hp, ha, exceeds⟩ := h
    have hf := CompileRun.findings?_eq_some_some.mpr ⟨problems, output, result, hp⟩
    have length := problemDiagnostics_length hp
    obtain ⟨settings, shown⟩ := react_of_unanalyzed_run hr hf ha
    refine ⟨diagnostics, mem_shownIn.mp (by simp [shown]), ?_⟩
    rw [settings]
    omega

def Machine.withCompiler (output : Text) : Machine :=
  ⟨[([['w']], .directory), ([['w'], ['p']], .file [] .denied),
    ([['w'], ['c']], .file [] (.works ⟨false, encodeUtf8 output, [], 1, []⟩))], [], []⟩

def Greeting.toCompiler (limit : Int) : Greeting :=
  ⟨.obj [("compilerPath".toList, .str "/w/c"), ("maxNumberOfProblems".toList, .int limit)], none, none, [],
    false, false⟩

/-- With a limit of one problem, a run for a document that is not open shows two. -/
theorem publishes_over_limit_after_run :
    ∃ past s event uri diagnostics, Session past s ∧ .publish uri diagnostics ∈ (s.react event).2 ∧
      (s.react event).1.settings.maxProblems < diagnostics.length := by
  have session := Session.next (.heard ⟨[], [], []⟩ [] (.greeting (.toCompiler 1))) (.start []) trivial
  have ran : ((ServerState.fresh []).react (.heard ⟨[], [], []⟩ [] (.greeting (.toCompiler 1)))).1.run?
      (.heard (.withCompiler "Line 1: a\nLine 2: b") [] (.command "smallbasic.compile" [.str "file:/w/p"])) =
      some ⟨⟨"file:/w/p", "/w/p"⟩,
        .ok (.failed [⟨"a", some ⟨1, none⟩⟩, ⟨"b", some ⟨2, none⟩⟩], "Line 1: a\nLine 2: b")⟩ := by rfl
  obtain ⟨diagnostics, sent, exceeds⟩ := (publishes_over_limit_iff session _ "file:/w/p").mpr
    ⟨_, _, _, _, ran, rfl, rfl, rfl, rfl, by decide⟩
  exact ⟨_, _, _, _, diagnostics, session, sent, exceeds⟩

end BasicWorkbench
