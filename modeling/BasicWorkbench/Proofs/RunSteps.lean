import BasicWorkbench.Proofs.MessageSteps

namespace BasicWorkbench

namespace ServerState

theorem storeVerdict_eq (s : ServerState) (uri : Text) (verdict : Verdict) :
    s.storeVerdict uri verdict = s.keep uri <$> verdict.findings := by
  cases verdict with
  | built program => rfl
  | failed problems =>
    simp only [storeVerdict, Verdict.findings]
    cases problemDiagnostics problems <;> rfl

theorem compilePublication_eq (s : ServerState) (uri : Text) :
    s.compilePublication uri = .publish uri (s.shownAfterRun uri) := by
  unfold compilePublication shownAfterRun
  cases s.analyzers.find? uri <;> rfl

/-- The end of a run shows what its verdict leaves behind, or does nothing to the state. -/
theorem onCompiled_cases (s : ServerState) (run : CompileRun) :
    (run.findings? = none ∧ (s.onCompiled run.job run.result).state = s ∧
        shownIn (s.onCompiled run.job run.result).sent = []) ∨
      ∃ held, run.findings? = some held ∧
        (s.onCompiled run.job run.result).state = s.keep run.job.uri held ∧
        shownIn (s.onCompiled run.job run.result).sent =
          [(run.job.uri, (s.keep run.job.uri held).shownAfterRun run.job.uri)] := by
  obtain ⟨job, fault | ⟨verdict, output⟩⟩ := run
  · cases fault with
    | tool failure => exact .inl ⟨rfl, rfl, rfl⟩
    | _ => exact .inl ⟨rfl, rfl, rfl⟩
  · simp only [CompileRun.findings?, onCompiled, storeVerdict_eq]
    cases hv : verdict.findings with
    | error f => exact .inl ⟨rfl, rfl, rfl⟩
    | ok held =>
      refine .inr ⟨held, rfl, rfl, ?_⟩
      simp [Functor.map, Except.map, shownIn, compilePublication_eq, ServerMessage.shown?]

theorem onCommand_of_job {m : Machine} {s : ServerState} {name : Text} {arguments : List Json}
    {job : CompileJob} (hj : ClientMessage.compileJob? (.command name arguments) = some job) :
    let ended := s.onCompiled job (compileProgram m s.settings (.ofText job.path)).2
    (s.onCommand m name arguments).2 = { ended with log := compileBegun job :: ended.log } := by
  simp only [ClientMessage.compileJob?] at hj
  split at hj
  next hn =>
    obtain ⟨target, ht, hj⟩ := Option.bind_eq_some_iff.mp hj
    cases ho : CompileJob.ofTarget target with
    | error f => simp [ho, Except.toOption] at hj
    | ok other =>
      obtain rfl : other = job := by simpa [ho, Except.toOption] using hj
      simp [onCommand, onCompile, hn, ht, ho]
  next => simp at hj

theorem onCommand_of_no_job {m : Machine} {s : ServerState} {name : Text} {arguments : List Json}
    (hj : ClientMessage.compileJob? (.command name arguments) = none) :
    (s.onCommand m name arguments).2.state = s ∧ shownIn (s.onCommand m name arguments).2.sent = [] := by
  unfold onCommand onCompile
  unfold ClientMessage.compileJob? at hj
  split
  next hn =>
    cases ht : compileTarget? arguments with
    | none => exact ⟨rfl, rfl⟩
    | some target =>
      cases ho : CompileJob.ofTarget target with
      | error f => exact ⟨by simp [ho, Turn.fault], by simp [ho, Turn.fault, shownIn]⟩
      | ok job => simp [hn, ht, ho, Except.toOption] at hj
  next => exact ⟨rfl, rfl⟩

/-- Whether a run is handled with its message or beside others, its end does the same. -/
theorem react_eq_of_run {s : ServerState} {event : ServerEvent} {run : CompileRun}
    (hr : s.run? event = some run) :
    s.react event =
      ((s.onCompiled run.job run.result).state, (s.onCompiled run.job run.result).messages true) := by
  cases event with
  | began job => simp [run?] at hr
  | ended start job result =>
    cases Option.some.inj hr
    rfl
  | heard m env message =>
    cases stopped : s.stopped with
    | true => simp [run?, stopped] at hr
    | false =>
      simp only [run?, stopped, Bool.false_eq_true, if_false] at hr
      obtain ⟨job, hj, rfl⟩ := Option.map_eq_some_iff.mp hr
      cases message with
      | command name arguments =>
        simp only [react, receive, turn, stopped, onCommand_of_job hj]
        rfl
      | _ => simp [ClientMessage.compileJob?] at hj

theorem react_of_run {s : ServerState} {event : ServerEvent} {run : CompileRun}
    (hr : s.run? event = some run) :
    (s.react event).1 = (s.onCompiled run.job run.result).state ∧
      shownIn (s.react event).2 = shownIn (s.onCompiled run.job run.result).sent := by
  rw [react_eq_of_run hr]
  exact ⟨rfl, shownIn_messages _ true⟩

theorem step_turn {m : Machine} (env : Environment) {s : ServerState} {message : ClientMessage}
    (running : s.stopped = false) (hj : message.compileJob? = none) :
    Step s (.heard m env message) (s.turn m env message).2.state (shownIn (s.turn m env message).2.sent) := by
  cases message with
  | greeting g => exact step_greeting running g
  | shutdown => exact .left running
  | opened uri text => exact step_opened running uri text
  | changed uri edits => exact step_changed running uri edits
  | saved uri => exact step_saved running uri
  | closed uri => exact step_closed running uri
  | configured configuration => exact step_configured running configuration
  | completion uri position => exact step_completion running uri position
  | outline uri => exact step_outline running uri
  | command name arguments =>
    obtain ⟨state, shown⟩ := onCommand_of_no_job (m := m) (s := s) hj
    rw [turn, state, shown]
    exact .still (.inr fun run h => by simp [run?, hj] at h)
  | notebook news => exact step_notebook running news
  | resolveItem fields =>
    simp only [turn, onResolve]
    cases resolveFields fields <;> exact .still (.inr trivial)
  | folders uris =>
    simp only [turn, onFolders]
    split <;> exact .still (.inr trivial)
  | progressCancelled token =>
    simp only [turn, onProgressCancelled]
    split <;> exact .still (.inr trivial)
  | greetingDone => exact .still (.inr trivial)
  | unhandled => exact .still (.inr trivial)

theorem ignores_of_run {s : ServerState} {event : ServerEvent} {run : CompileRun}
    (hr : s.run? event = some run) (nothing : run.findings? = none) : s.Ignores event := by
  rcases run?_cases hr with ⟨start, rfl⟩ | ⟨m, env, name, arguments, rfl⟩
  · exact nothing
  · refine .inr fun other h => ?_
    obtain rfl : run = other := Option.some.inj (hr.symm.trans h)
    exact nothing

theorem step_of_run {s : ServerState} {event : ServerEvent} {run : CompileRun}
    (hr : s.run? event = some run) :
    Step s event (s.react event).1 (shownIn (s.react event).2) := by
  rw [(react_of_run hr).1, (react_of_run hr).2]
  rcases onCompiled_cases s run with ⟨none, state, shown⟩ | ⟨held, some, state, shown⟩
  · rw [state, shown]
    exact .still (ignores_of_run hr none)
  · rw [state, shown]
    exact .ran hr some

/-- All that an event can do to the server. -/
theorem step_react (s : ServerState) (event : ServerEvent) :
    Step s event (s.react event).1 (shownIn (s.react event).2) := by
  cases hr : s.run? event with
  | some run => exact step_of_run hr
  | none =>
    cases event with
    | began job => exact .still trivial
    | ended start job result => simp [run?] at hr
    | heard m env message =>
      cases stopped : s.stopped with
      | true =>
        have still : s.Ignores (.heard m env message) := .inl stopped
        simpa [react, receive, stopped, shownIn] using Step.still still
      | false =>
        have hj : message.compileJob? = none := by simpa [run?, stopped] using hr
        simpa [react, receive, stopped, shownIn_messages] using step_turn env stopped hj

end ServerState

end BasicWorkbench
