import BasicWorkbench.Compilations
import BasicWorkbench.Proofs.FileWalks

namespace BasicWorkbench

/-- A run of the compiler that came to its end: the file that was started, the source with its whole path, the
machine afterwards, what was printed and the code at the end. -/
structure CompilerRun where
  compiler : Trail
  source : Path
  after : Machine
  output : Text
  exitCode : Int

def runCompiler (m : Machine) (settings : Settings) (source : Path) : Except Fault CompilerRun :=
  let compiler := Path.ofText settings.compilerPath
  match sourceTrail m compiler source with
  | .error f => .error f
  | .ok trail =>
    match m.programAt trail.dropLast compiler with
    | .error cause => .error (.tool (.compilerStart ⟨cause, compiler.text⟩))
    | .ok (place, behaviour) =>
      let (after, stderr) := m.afterRun trail.dropLast behaviour
      let stdout := capturedText (behaviour.printed trail.dropLast (Path.text ⟨1, trail⟩))
      .ok ⟨place, ⟨1, trail⟩, after, joinStreams stdout (capturedText stderr), behaviour.exitCode⟩

def CompilerRun.judged (run : CompilerRun) (program : Path) : Except Fault Verdict :=
  judge run.after run.output run.exitCode run.source program

def CompilerRun.verdict (run : CompilerRun) : Except Fault Verdict := do
  run.judged (← executableFor run.source)

/-- A compilation is a run of the compiler and the verdict on it. -/
theorem compileProgram_eq (m : Machine) (settings : Settings) (source : Path) :
    compileProgram m settings source =
      match runCompiler m settings source with
      | .error f => (m, .error f)
      | .ok run => (run.after, (·, run.output) <$> run.verdict) := by
  simp only [compileProgram, runCompiler]
  cases sourceTrail m (Path.ofText settings.compilerPath) source with
  | error f => rfl
  | ok trail =>
    dsimp only
    cases m.programAt trail.dropLast (Path.ofText settings.compilerPath) with
    | error cause => rfl
    | ok started =>
      simp only [CompilerRun.verdict, CompilerRun.judged]
      cases executableFor ⟨1, trail⟩ with
      | error f => rfl
      | ok program => rfl

/-- A compilation has a result if the compiler came to its end and there is a verdict on its run. -/
theorem compileProgram_eq_ok {m : Machine} {settings : Settings} {source : Path} {verdict : Verdict}
    {output : Text} :
    (compileProgram m settings source).2 = .ok (verdict, output) ↔
      ∃ run program, runCompiler m settings source = .ok run ∧ executableFor run.source = .ok program ∧
        run.judged program = .ok verdict ∧ run.output = output := by
  rw [compileProgram_eq]
  cases runCompiler m settings source with
  | error f => simp
  | ok run =>
    simp only [map_eq_ok, CompilerRun.verdict, bind_eq_ok, Except.ok.injEq, Prod.mk.injEq]
    constructor
    · rintro ⟨_, ⟨program, named, judged⟩, rfl, printed⟩
      exact ⟨run, program, rfl, named, judged, printed⟩
    · rintro ⟨_, program, rfl, named, judged, printed⟩
      exact ⟨verdict, ⟨program, named, judged⟩, rfl, printed⟩

/-- The run left the program behind, and ended with a code of zero or told of zero errors. -/
def CompilerRun.Succeeds (run : CompilerRun) (program : Path) : Prop :=
  run.after.hasEntry program = .ok true ∧ (run.exitCode = 0 ∨ hasZeroSummary run.output = true)

/-- The problem of a run that failed and named none. -/
def CompilerRun.fallback (run : CompilerRun) : Problem :=
  if run.exitCode = 0 ∨ hasZeroSummary run.output = true then missingProgram
  else namelessFailure run.output (.ofCode run.exitCode)

section Verdicts

variable {run : CompilerRun} {program : Path}

/-- A verdict looks for the program if the run ended well, and reads what was printed if there is none. -/
theorem judged_eq (run : CompilerRun) (program : Path) :
    run.judged program =
      (if run.exitCode = 0 ∨ hasZeroSummary run.output = true then run.after.hasEntry program
        else .ok false) >>= fun built =>
      if built then .ok (.built program.text)
      else
        (fun problems => .failed (if problems.isEmpty then [run.fallback] else problems)) <$>
          readReportWith run.output (run.after.sourceLines run.source) := by
  have zero : (ExitStatus.ofCode run.exitCode).isZero = (run.exitCode == 0) := rfl
  simp only [CompilerRun.judged, judge, judgeWith, CompilerRun.fallback, zero]
  by_cases clean : run.exitCode = 0 ∨ hasZeroSummary run.output = true
  · have clean' : (run.exitCode == 0 || hasZeroSummary run.output) = true := by simpa using clean
    simp only [clean', if_true, if_pos clean]
    cases run.after.hasEntry program with
    | error f => rfl
    | ok built =>
      cases built with
      | true => rfl
      | false => cases readReportWith run.output (run.after.sourceLines run.source) <;> rfl
  · have clean' : (run.exitCode == 0 || hasZeroSummary run.output) = false := by
      simpa [not_or] using clean
    simp only [clean', if_neg clean]
    cases readReportWith run.output (run.after.sourceLines run.source) <;> rfl

theorem judged_of_success (success : run.Succeeds program) :
    run.judged program = .ok (.built program.text) := by
  rw [judged_eq, if_pos success.2, success.1]
  rfl

/-- The program's own path can be too long to look for it. -/
theorem judged_of_tooLong (clean : run.exitCode = 0 ∨ hasZeroSummary run.output = true)
    (long : run.after.TooLong program) :
    run.judged program = .error (.system ⟨.nameTooLong, program.text⟩) := by
  have failed : run.after.hasEntry program = .error (.system ⟨.nameTooLong, program.text⟩) := by
    rw [Machine.hasEntry, long]
    rfl
  rw [judged_eq, if_pos clean, failed]
  rfl

/-- A run without success is judged by what the report says. -/
theorem judged_of_failure (failure : ¬run.Succeeds program)
    (found : run.exitCode = 0 ∨ hasZeroSummary run.output = true → ¬run.after.TooLong program) :
    run.judged program =
      (fun problems => .failed (if problems.isEmpty then [run.fallback] else problems)) <$>
        readReportWith run.output (run.after.sourceLines run.source) := by
  have absent : (if run.exitCode = 0 ∨ hasZeroSummary run.output = true then run.after.hasEntry program
      else .ok false) = .ok false := by
    split
    next clean =>
      rcases run.after.find_cases program with ⟨_, _, _, there⟩ | ⟨_, missing⟩ | ⟨long, _⟩
      · exact absurd ⟨there, clean⟩ failure
      · exact missing
      · exact absurd long (found clean)
    next => rfl
  rw [judged_eq, absent]
  rfl

/-- A verdict names the program of a successful run, and at least one problem of another one. -/
theorem judged_cases {verdict : Verdict} (judged : run.judged program = .ok verdict) :
    (run.Succeeds program ∧ verdict = .built program.text) ∨
      ¬run.Succeeds program ∧ ∃ problems, problems ≠ [] ∧ verdict = .failed problems := by
  by_cases success : run.Succeeds program
  · rw [judged_of_success success] at judged
    exact .inl ⟨success, (Except.ok.inj judged).symm⟩
  · have found : run.exitCode = 0 ∨ hasZeroSummary run.output = true → ¬run.after.TooLong program := by
      intro clean long
      rw [judged_of_tooLong clean long] at judged
      contradiction
    rw [judged_of_failure success found] at judged
    cases read : readReportWith run.output (run.after.sourceLines run.source) with
    | error f =>
      rw [read] at judged
      contradiction
    | ok problems =>
      rw [read] at judged
      obtain rfl := Except.ok.inj judged
      refine .inr ⟨success, _, ?_, rfl⟩
      cases problems with
      | nil => simp
      | cons p problems => simp

end Verdicts

end BasicWorkbench
