import Mathlib.Data.List.Forall2
import BasicWorkbench.Commands
import BasicWorkbench.Compilations
import BasicWorkbench.Proofs.CompilerRuns
import BasicWorkbench.Proofs.RunReports

namespace BasicWorkbench

/-- A compilation tells in all its parts whether the run succeeded: it has the program of a run that did,
and at least one problem of one that did not. -/
structure Compilation.TellsOf (result : Compilation) (run : CompilerRun) (program : Path) : Prop where
  success : run.Succeeds program → result.verdict = .built program.text
  failure : ¬run.Succeeds program → result.program? = none ∧ result.problems ≠ []
  placed : ∀ p ∈ result.problems, p.column?.isSome = true → p.line?.isSome = true
  told : fieldOf result.fields "success" = .bool true ↔ run.Succeeds program
  clear : fieldOf result.fields "errors" = .arr [] ↔ run.Succeeds program

theorem Compilation.tellsOf_of_judged {run : CompilerRun} {program : Path} {verdict : Verdict}
    (judged : run.judged program = .ok verdict) (raw : Option Text) :
    Compilation.TellsOf ⟨verdict, raw⟩ run program := by
  have success (result : Compilation) :
      fieldOf result.fields "success" = .bool result.program?.isSome := rfl
  have errors (result : Compilation) :
      fieldOf result.fields "errors" = .arr (result.problems.map fun p => .obj p.fields) := rfl
  rcases judged_cases judged with ⟨succeeds, rfl⟩ | ⟨fails, problems, some, rfl⟩
  · exact ⟨fun _ => rfl, fun fails => absurd succeeds fails, fun p _ => p.line_of_column,
      iff_of_true rfl succeeds, iff_of_true rfl succeeds⟩
  · refine ⟨fun succeeds => absurd succeeds fails, fun _ => ⟨rfl, some⟩, fun p _ => p.line_of_column,
      iff_of_false ?_ fails, iff_of_false ?_ fails⟩
    · rw [success]
      simp [Compilation.program?]
    · rw [errors]
      simpa [Compilation.problems] using some

/-- The column that is shown for a place: the first one where none is known. -/
def Place.shownColumn (place : Place) : Int :=
  match place.column with
  | none => 1
  | some column => if column = 0 then 1 else column

/-- A line that is printed for a problem in a file: its place, if it has one, the word for an error and its message. -/
inductive Problem.PrintedAs (colors : Palette) (filename : Text) : Problem → Text → Prop
  | placed (message : Text) (place : Place) : PrintedAs colors filename ⟨message, some place⟩
    ("  " ++ colors.gray ++ (if filename = [] then [] else filename ++ [':']) ++ intText place.line ++ ":" ++
      intText place.shownColumn ++ ":" ++ colors.reset ++ " " ++ colors.red ++ "error:" ++ colors.reset ++ " " ++
      message ++ "\n")
  | unplaced (message : Text) : PrintedAs colors filename ⟨message, none⟩
    ("  " ++ colors.red ++ "error:" ++ colors.reset ++ " " ++ message ++ "\n")

theorem printedAs_problemLine (colors : Palette) (filename : Text) (p : Problem) :
    p.PrintedAs colors filename (problemLine colors filename p) := by
  obtain ⟨message, place⟩ := p
  cases place with
  | none =>
    have line := @Problem.PrintedAs.unplaced colors filename message
    simpa only [problemLine, List.append_assoc] using line
  | some place =>
    have column : (if place.column.getD 0 = 0 then 1 else place.column.getD 0) = place.shownColumn := by
      obtain ⟨line, none | column⟩ := place <;> rfl
    have line := @Problem.PrintedAs.placed colors filename message place
    simpa only [problemLine, placeText_some, column, List.append_assoc] using line

theorem ite_rawReport (colors : Palette) (showRaw : Bool) (output : Text) :
    (if showRaw then rawReport colors output else []) =
      if showRaw = true ∧ output ≠ [] then
        colors.bold ++ "Compiler output:" ++ colors.reset ++ ['\n'] ++ output ++ ['\n'] else [] := by
  cases showRaw with
  | false => rfl
  | true => cases output <;> rfl

theorem compileCommand_of_result {m : Machine} {settings : Settings} {input : Path} {verdict : Verdict}
    {output : Text} (result : (compileProgram m settings input).2 = .ok (verdict, output)) (colors : Palette)
    (showRaw : Bool) :
    let raw := if showRaw then rawReport colors output else []
    compileCommand m colors settings showRaw input = .ok (match verdict with
      | .built program => ⟨0, raw ++ colors.green ++ "Compiled:" ++ colors.reset ++ " " ++ input.text ++
          " -> " ++ program ++ "\n", []⟩
      | .failed problems => { failureReport colors input problems with
          stdout := raw ++ problems.flatMap (problemLine colors input.text) }) := by
  simp only [compileCommand, result]
  cases verdict <;> rfl

theorem find?_compilerDiagnostics_of_run {s : ServerState} {event : ServerEvent} {ended : CompileRun}
    {verdict : Verdict} {output : Text} {held : Option (List Diagnostic)} (ran : s.run? event = some ended)
    (result : ended.result = .ok (verdict, output)) (findings : verdict.findings = .ok held) :
    (s.react event).1.compilerDiagnostics.find? ended.job.uri = held := by
  have found : ended.findings? = some held := by
    rw [CompileRun.findings?, result]
    simp only [findings]
    rfl
  rw [(ServerState.react_of_run ran).1]
  rcases s.onCompiled_cases ended with ⟨nothing, _⟩ | ⟨kept, some, state, _⟩
  · rw [found] at nothing
    contradiction
  · obtain rfl := Option.some.inj (found.symm.trans some)
    rw [state, ServerState.find?_keep, if_pos rfl]

theorem Verdict.findings_of_showable {problems : List Problem} (shown : ∀ p ∈ problems, p.Showable) :
    (Verdict.failed problems).findings = .ok (some (problems.map Problem.underlined)) := by
  rcases problemDiagnostics_cases problems with ⟨_, made⟩ | ⟨⟨p, hp, excess⟩, _⟩
  · rw [findings, made]
    rfl
  · exact absurd (shown p hp) excess

/-- Whoever asks about a run of the compiler that has a verdict gets the same one. The run succeeded exactly
if it left the program behind and ended with a code of zero or told of zero errors: then the result names
the program and no problem, the command ends with a code of zero, and the server keeps nothing for the URI.
Else the result names at least one problem, the command prints a line for each, and the server keeps a
diagnostic for each if editors accept their places. -/
theorem verdict_shared {run : CompilerRun} {program : Path} {verdict : Verdict}
    (judged : run.judged program = .ok verdict) :
    let problems := (Compilation.mk verdict none).problems
    (∀ raw, Compilation.TellsOf ⟨verdict, raw⟩ run program) ∧
      ∀ (m : Machine) (settings : Settings) (input : Path), runCompiler m settings input = .ok run →
        executableFor run.source = .ok program →
        (∀ colors showRaw, ∃ t, compileCommand m colors settings showRaw input = .ok t ∧
          (t.code = 0 ↔ run.Succeeds program) ∧
          (¬run.Succeeds program → t.code = 1 ∧ problems ≠ [] ∧
            ∃ lines : List Text, List.Forall₂ (Problem.PrintedAs colors input.text) problems lines ∧
              t.stdout = (if showRaw = true ∧ run.output ≠ [] then
                colors.bold ++ "Compiler output:" ++ colors.reset ++ ['\n'] ++ run.output ++ ['\n'] else []) ++
                lines.flatten)) ∧
        ∀ (s : ServerState) (event : ServerEvent) (ended : CompileRun), s.run? event = some ended →
          ended.result = (compileProgram m settings input).2 →
          let held := (s.react event).1.compilerDiagnostics.find? ended.job.uri
          (run.Succeeds program → held = none) ∧
          ((∀ p ∈ problems, p.Showable) → (held = none ↔ run.Succeeds program) ∧
            (¬run.Succeeds program → held = some (problems.map Problem.underlined))) := by
  intro problems
  refine ⟨Compilation.tellsOf_of_judged judged, fun m settings input ran named => ?_⟩
  have result : (compileProgram m settings input).2 = .ok (verdict, run.output) :=
    compileProgram_eq_ok.mpr ⟨run, program, ran, named, judged, rfl⟩
  refine ⟨fun colors showRaw => ⟨_, compileCommand_of_result result colors showRaw, ?_⟩,
    fun s event ended during same => ?_⟩
  · rcases judged_cases judged with ⟨succeeds, rfl⟩ | ⟨fails, problems, some, rfl⟩
    · exact ⟨iff_of_true rfl succeeds, fun fails => absurd succeeds fails⟩
    · refine ⟨iff_of_false (by simp [failureReport]) fails, fun _ => ⟨rfl, some,
        problems.map (problemLine colors input.text), ?_, ?_⟩⟩
      · rw [List.forall₂_map_right_iff, List.forall₂_same]
        exact fun p _ => printedAs_problemLine colors input.text p
      · show (if showRaw then rawReport colors run.output else []) ++ problems.flatMap _ = _
        rw [ite_rawReport, List.flatMap_def]
  · have kept {held : Option (List Diagnostic)} (findings : verdict.findings = .ok held) :=
      find?_compilerDiagnostics_of_run during (same.trans result) findings
    rcases judged_cases judged with ⟨succeeds, rfl⟩ | ⟨fails, problems, some, rfl⟩
    · exact ⟨fun _ => kept rfl, fun _ => ⟨iff_of_true (kept rfl) succeeds, fun fails => absurd succeeds fails⟩⟩
    · refine ⟨fun succeeds => absurd succeeds fails, fun shown => ?_⟩
      have kept := kept (Verdict.findings_of_showable shown)
      exact ⟨iff_of_false (by simp [kept]) fails, fun _ => kept⟩

/-- A compiler that names a problem and leaves no program: the command prints the problem and ends with a code of
one, and the server keeps what it shows for the problem. -/
theorem verdict_shared_of_failure :
    let m := Machine.withCompiler "Line 1: a"
    let before := ((ServerState.fresh []).react (.heard ⟨[], [], []⟩ [] (.greeting (.toCompiler 1)))).1
    let event := ServerEvent.heard m [] (.command "smallbasic.compile" [.str "file:/w/p"])
    (∃ t, compileCommand m .plain before.settings false (.ofText "/w/p") = .ok t ∧ t.code = 1 ∧
        t.stdout = "  /w/p:1:1: error: a\n") ∧
      (before.react event).1.compilerDiagnostics.find? "file:/w/p" =
        some [Problem.underlined ⟨"a", some ⟨1, none⟩⟩] := by
  intro m before event
  have ran : runCompiler m before.settings (.ofText "/w/p") =
      .ok ⟨[['w'], ['c']], ⟨1, [['w'], ['p']]⟩, m, "Line 1: a", 1⟩ := by rfl
  have named : executableFor ⟨1, [['w'], ['p']]⟩ = .ok ⟨1, [['w'], "p.exe".toList]⟩ := by rfl
  have judged : CompilerRun.judged ⟨[['w'], ['c']], ⟨1, [['w'], ['p']]⟩, m, "Line 1: a", 1⟩
      ⟨1, [['w'], "p.exe".toList]⟩ = .ok (.failed [⟨"a", some ⟨1, none⟩⟩]) := by rfl
  have failure : ¬CompilerRun.Succeeds ⟨[['w'], ['c']], ⟨1, [['w'], ['p']]⟩, m, "Line 1: a", 1⟩
      ⟨1, [['w'], "p.exe".toList]⟩ := fun succeeds => by
    have absent : m.hasEntry ⟨1, [['w'], "p.exe".toList]⟩ = .ok false := by rfl
    exact nomatch absent.symm.trans succeeds.1
  have shown : ∀ p ∈ [(⟨"a", some ⟨1, none⟩⟩ : Problem)], p.Showable := by
    simp [Problem.Showable, Problem.line?, Problem.column?, positionLimit]
  obtain ⟨result, same⟩ : ∃ result, result = (compileProgram m before.settings (.ofText "/w/p")).2 := ⟨_, rfl⟩
  have during : before.run? event = some ⟨⟨"file:/w/p", "/w/p"⟩, result⟩ := by
    rw [same]
    rfl
  obtain ⟨_, everywhere⟩ := verdict_shared judged
  obtain ⟨command, server⟩ := everywhere m before.settings (.ofText "/w/p") ran named
  obtain ⟨t, ended, _, fails⟩ := command .plain false
  obtain ⟨_, kept⟩ := (server before event _ during same).2 shown
  obtain ⟨code, _, lines, printed, stdout⟩ := fails failure
  cases printed with
  | cons line rest =>
    cases rest
    cases line
    exact ⟨⟨t, ended, code, stdout⟩, kept failure⟩

end BasicWorkbench
