import BasicWorkbench.Proofs.CompilerRuns
import BasicWorkbench.Proofs.SurroundedSummaries

namespace BasicWorkbench

section Runs

variable (run : CompilerRun) (program : Path)

theorem judged_built_iff :
    (∃ built, run.judged program = .ok (.built built)) ↔ run.Succeeds program := by
  constructor
  · rintro ⟨built, judged⟩
    rcases judged_cases judged with ⟨succeeds, _⟩ | ⟨_, problems, _, failed⟩
    · exact succeeds
    · contradiction
  · intro succeeds
    exact ⟨program.text, judged_of_success succeeds⟩

theorem judged_of_reported (code : run.exitCode ≠ 0) {problems : List Problem} (some : problems ≠ [])
    (reported : readReportWith run.output (run.after.sourceLines run.source) = .ok problems) :
    run.judged program = .ok (.failed problems) := by
  have erring : hasZeroSummary run.output ≠ true := by
    intro zero
    rw [readReportWith_of_zero zero] at reported
    exact some (Except.ok.inj reported).symm
  have unclean : ¬(run.exitCode = 0 ∨ hasZeroSummary run.output = true) := not_or.mpr ⟨code, erring⟩
  rw [judged_of_failure (fun succeeds => unclean succeeds.2) fun clean => absurd clean unclean, reported]
  have filled : problems.isEmpty = false := by simpa using some
  exact congrArg (fun problems => Except.ok (Verdict.failed problems)) (by rw [filled]; rfl)

end Runs

/-- A run succeeds exactly if the program is there and the code is zero or zero errors are counted. Unless its code is
zero, a successful run reports nothing, with a source or without; and a run that reports problems fails with them, even
if a program is there. -/
theorem success_reports_nothing (m : Machine) (output : Text) (exitCode : Int) (source program : Path) :
    let succeeds := ∃ built, judge m output exitCode source program = .ok (.built built)
    (succeeds ↔ m.hasEntry program = .ok true ∧ (exitCode = 0 ∨ hasZeroSummary output = true)) ∧
      (exitCode ≠ 0 → succeeds → ∀ lines, readReportWith output lines = .ok []) ∧
      (exitCode ≠ 0 → ∀ problems, problems ≠ [] → readReportWith output (m.sourceLines source) = .ok problems →
        judge m output exitCode source program = .ok (.failed problems)) := by
  intro succeeds
  let run : CompilerRun := ⟨[], source, m, output, exitCode⟩
  have judged : succeeds ↔ run.Succeeds program := judged_built_iff run program
  refine ⟨judged, fun code success lines => ?_, fun code problems some reported => ?_⟩
  · obtain ⟨_, clean⟩ := judged.mp success
    exact readReportWith_of_zero (clean.resolve_left code) lines
  · exact judged_of_reported run program code some reported

/-- With a program left over, a run that names a problem is a success if its code is zero. -/
theorem success_of_reported_problem :
    let m : Machine := ⟨[(["p.exe"], .file [] .denied)], [], []⟩
    judge m "Line 1: boom" 0 (.ofText "/p.sb") (.ofText "/p.exe") = .ok (.built "/p.exe") ∧
      readReportWith "Line 1: boom" (.ok none) = .ok [⟨"boom", some ⟨1, none⟩⟩] :=
  ⟨by rfl, by rfl⟩

/-- With the same program, a run that names the problem and has another code fails, and one that counts zero errors
succeeds and reports nothing. -/
theorem success_reports_nothing_beside_program :
    let m : Machine := ⟨[(["p.exe"], .file [] .denied)], [], []⟩
    judge m "Line 1: boom" 3 (.ofText "/p.sb") (.ofText "/p.exe") = .ok (.failed [⟨"boom", some ⟨1, none⟩⟩]) ∧
      (∃ built, judge m "p.sb: 0 errors.\nLine 1: boom" 3 (.ofText "/p.sb") (.ofText "/p.exe") = .ok (.built built)) ∧
      readReportWith "p.sb: 0 errors.\nLine 1: boom" (.ok none) = .ok [] := by
  intro m
  obtain ⟨_, _, fails⟩ := success_reports_nothing m "Line 1: boom" 3 (.ofText "/p.sb") (.ofText "/p.exe")
  obtain ⟨judged, clean, _⟩ :=
    success_reports_nothing m "p.sb: 0 errors.\nLine 1: boom" 3 (.ofText "/p.sb") (.ofText "/p.exe")
  have success := judged.mpr ⟨by rfl, .inr (by decide)⟩
  exact ⟨fails (by decide) _ (List.cons_ne_nil _ _) (by rfl), success, clean (by decide) success _⟩

end BasicWorkbench
