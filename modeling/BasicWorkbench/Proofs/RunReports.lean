import BasicWorkbench.Proofs.RunSteps
import BasicWorkbench.Proofs.PublicationLimits

namespace BasicWorkbench

/-- Editors accept both ends of the stretch that is underlined for the problem. What is missing is no
obstacle, and neither is a number that is too small. -/
def Problem.Showable (p : Problem) : Prop :=
  (∀ line ∈ p.line?, line ≤ positionLimit + 1) ∧
    ∀ column ∈ p.column?, column + underlineWidth ≤ positionLimit + 1

theorem fromZero_le_iff {n : Option Int} {bound : Nat} :
    fromZero n ≤ bound ↔ ∀ k ∈ n, k ≤ bound + 1 := by
  cases n with
  | none => simp [fromZero]
  | some k =>
    have counted : fromZero (some k) = (k - 1).toNat := rfl
    simp only [counted, Option.mem_def, Option.some.injEq, forall_eq']
    omega

/-- The stretch has to end within the limit, and then it starts there too. -/
theorem Problem.showable_iff (p : Problem) :
    p.Showable ↔
      fromZero p.line? ≤ positionLimit ∧ fromZero p.column? + underlineWidth ≤ positionLimit := by
  have limit : positionLimit = 2147483647 := rfl
  have width : underlineWidth = 10 := rfl
  have columns : fromZero p.column? + underlineWidth ≤ positionLimit ↔
      fromZero p.column? ≤ positionLimit - underlineWidth := by omega
  rw [columns, fromZero_le_iff, fromZero_le_iff]
  refine and_congr_right fun _ => forall₂_congr fun column _ => ?_
  omega

theorem checkField_of_le {field : PositionField} {n : Nat} (h : n ≤ positionLimit) :
    checkField field n = .ok n := by
  simp [checkField, h]

theorem checkField_of_lt {field : PositionField} {n : Nat} (h : positionLimit < n) :
    checkField field n = .error (.outOfRange field n) := by
  simp [checkField, h]

/-- The error shown for a problem whose place editors accept. -/
def Problem.underlined (p : Problem) : Diagnostic where
  span := .onLine (fromZero p.line?) (fromZero p.column?) (fromZero p.column? + underlineWidth)
  message := p.message
  origin := .compiler

/-- The stretch of a problem is checked from its line to its end, and the first number out of range is the
fault. -/
theorem Problem.diagnostic_cases (p : Problem) :
    (p.Showable ∧ p.diagnostic = .ok p.underlined) ∨
      ¬p.Showable ∧ ∃ field value, (positionLimit : Int) < value ∧
        p.diagnostic = .error (.outOfRange field value) := by
  rw [p.showable_iff]
  have last : ((fromZero p.column? : Int) + (underlineWidth : Int)) =
      ((fromZero p.column? + underlineWidth : Nat) : Int) := rfl
  simp only [diagnostic, Span.checkedOnLine, Position.checked, last]
  rcases Nat.lt_or_ge positionLimit (fromZero p.line?) with below | line
  · refine .inr ⟨fun fits => by omega, .line, fromZero p.line?, by omega, ?_⟩
    rw [checkField_of_lt below]
    rfl
  rw [checkField_of_le line]
  rcases Nat.lt_or_ge positionLimit (fromZero p.column?) with beyond | first
  · refine .inr ⟨fun fits => by omega, .character, fromZero p.column?, by omega, ?_⟩
    rw [checkField_of_lt beyond]
    rfl
  rw [checkField_of_le first]
  rcases Nat.lt_or_ge positionLimit (fromZero p.column? + underlineWidth) with large | stop
  · refine .inr ⟨fun fits => by omega, .character, (fromZero p.column? + underlineWidth : Nat), by omega, ?_⟩
    rw [checkField_of_lt large]
    rfl
  · refine .inl ⟨⟨line, stop⟩, ?_⟩
    rw [checkField_of_le stop]
    rfl

/-- A list of problems is shown in full, or the first that cannot be shown stops all of it. -/
theorem problemDiagnostics_cases (problems : List Problem) :
    ((∀ p ∈ problems, p.Showable) ∧ problemDiagnostics problems = .ok (problems.map Problem.underlined)) ∨
      (∃ p ∈ problems, ¬p.Showable) ∧ ∃ field value, (positionLimit : Int) < value ∧
        problemDiagnostics problems = .error (.outOfRange field value) := by
  unfold problemDiagnostics
  induction problems with
  | nil => exact .inl ⟨by simp, rfl⟩
  | cons p problems ih =>
    rw [List.mapM_cons]
    rcases p.diagnostic_cases with ⟨fits, made⟩ | ⟨excess, field, value, large, failed⟩
    · rcases ih with ⟨all, rest⟩ | ⟨⟨q, hq, excess⟩, field, value, large, failed⟩
      · refine .inl ⟨List.forall_mem_cons.mpr ⟨fits, all⟩, ?_⟩
        rw [made, rest]
        rfl
      · refine .inr ⟨⟨q, List.mem_cons_of_mem p hq, excess⟩, field, value, large, ?_⟩
        rw [made, failed]
        rfl
    · refine .inr ⟨⟨p, List.mem_cons_self, excess⟩, field, value, large, ?_⟩
      rw [failed]
      rfl

/-- A verdict leaves behind what is shown for its problems, or the number that stopped it. -/
theorem Verdict.findings_cases (verdict : Verdict) (output : Option Text) :
    let problems := (Compilation.mk verdict output).problems
    ((∀ p ∈ problems, p.Showable) ∧ ∃ held, verdict.findings = .ok held ∧
        held.getD [] = problems.map Problem.underlined) ∨
      (∃ p ∈ problems, ¬p.Showable) ∧ ∃ field value, (positionLimit : Int) < value ∧
        verdict.findings = .error (.outOfRange field value) := by
  cases verdict with
  | built program => exact .inl ⟨by simp [Compilation.problems], none, rfl, rfl⟩
  | failed problems =>
    rcases problemDiagnostics_cases problems with ⟨all, made⟩ | ⟨excess, field, value, large, failed⟩
    · refine .inl ⟨all, some (problems.map Problem.underlined), ?_, rfl⟩
      rw [findings, made]
      rfl
    · refine .inr ⟨excess, field, value, large, ?_⟩
      rw [findings, failed]
      rfl

/-- Whatever ends a compile run that has a result, at once or beside other messages: the result is told, and
diagnostics are published for the URI of the target, exactly if all problems of the result can be shown. Then
there is one for every problem. Else the run ends in a refusal that names a number out of range, and nothing
is kept or published. -/
theorem run_reported_iff {s : ServerState} {event : ServerEvent} {run : CompileRun} {verdict : Verdict}
    {output : Text} (ran : s.run? event = some run) (ended : run.result = .ok (verdict, output)) :
    let result : Compilation := ⟨verdict, some output⟩
    let after := (s.react event).1
    let sent := (s.react event).2
    ((∃ diagnostics, sent = [.publish run.job.uri diagnostics, .answer (.compilation result)]) ↔
        ∀ p ∈ result.problems, p.Showable) ∧
      ((∀ p ∈ result.problems, p.Showable) →
        after.findings run.job.uri = result.problems.map Problem.underlined ∧
          .publish run.job.uri (after.shownAfterRun run.job.uri) ∈ sent) ∧
      ((∃ p ∈ result.problems, ¬p.Showable) → ∃ field value, (positionLimit : Int) < value ∧ after = s ∧
        sent = [.refuse (.fault (.outOfRange field value))]) := by
  intro result after sent
  have reacted : (after, sent) = s.react event := rfl
  rw [ServerState.react_eq_of_run ran, ended] at reacted
  obtain ⟨state, messages⟩ := Prod.mk.inj reacted
  simp only [ServerState.onCompiled, ServerState.storeVerdict_eq] at state messages
  rcases verdict.findings_cases (some output) with
    ⟨all, held, kept, shown⟩ | ⟨⟨p, hp, excess⟩, field, value, large, failed⟩
  · rw [kept] at state messages
    have keeps : after = s.keep run.job.uri held := state
    have told : sent = [.publish run.job.uri (after.shownAfterRun run.job.uri),
        .answer (.compilation result)] := by
      rw [messages, keeps, ← ServerState.compilePublication_eq]
      rfl
    refine ⟨⟨fun _ => all, fun _ => ⟨_, told⟩⟩, fun _ => ⟨?_, by simp [told]⟩, ?_⟩
    · rw [keeps, ServerState.findings_keep, if_pos rfl]
      exact shown
    · intro excess
      obtain ⟨p, hp, excess⟩ := excess
      exact absurd (all p hp) excess
  · rw [failed] at state messages
    have refused : sent = [.refuse (.fault (.outOfRange field value))] := messages
    refine ⟨⟨fun reported => ?_, fun all => absurd (all p hp) excess⟩,
      fun all => absurd (all p hp) excess, fun _ => ⟨field, value, large, state, refused⟩⟩
    obtain ⟨_, told⟩ := reported
    simp [refused] at told

/-- A compiler that names the last line an editor knows is heard, and one that names the line behind it is
not. -/
theorem run_reported_up_to_last_line :
    let before := ((ServerState.fresh []).react (.heard ⟨[], [], []⟩ [] (.greeting (.toCompiler 1)))).1
    let event (output : Text) : ServerEvent :=
      .heard (.withCompiler output) [] (.command "smallbasic.compile" [.str "file:/w/p"])
    (∃ diagnostics, .publish "file:/w/p" diagnostics ∈ (before.react (event "Line 2147483648: a")).2) ∧
      ∃ field value, (before.react (event "Line 2147483649: a")).2 =
        [.refuse (.fault (.outOfRange field value))] := by
  intro before event
  have near : before.run? (event "Line 2147483648: a") = some ⟨⟨"file:/w/p", "/w/p"⟩,
      .ok (.failed [⟨"a", some ⟨2147483648, none⟩⟩], "Line 2147483648: a")⟩ := by rfl
  have far : before.run? (event "Line 2147483649: a") = some ⟨⟨"file:/w/p", "/w/p"⟩,
      .ok (.failed [⟨"a", some ⟨2147483649, none⟩⟩], "Line 2147483649: a")⟩ := by rfl
  constructor
  · have fits : ∀ p ∈ [(⟨"a", some ⟨2147483648, none⟩⟩ : Problem)], p.Showable := by
      simp [Problem.Showable, Problem.line?, Problem.column?, positionLimit]
    exact ⟨_, ((run_reported_iff near rfl).2.1 fits).2⟩
  · have excess : ∃ p ∈ [(⟨"a", some ⟨2147483649, none⟩⟩ : Problem)], ¬p.Showable := by
      simp [Problem.Showable, Problem.line?, Problem.column?, positionLimit]
    obtain ⟨field, value, _, _, refused⟩ := (run_reported_iff far rfl).2.2 excess
    exact ⟨field, value, refused⟩

end BasicWorkbench
