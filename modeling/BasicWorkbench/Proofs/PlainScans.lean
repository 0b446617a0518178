import BasicWorkbench.Proofs.SurroundedSummaries
import BasicWorkbench.Proofs.WrittenReports

namespace BasicWorkbench

def ReportShape.single : List ReportShape := [.errorAtLine, .lineMessage, .syntaxError, .errorMessage]

/-- The problem on a line that is no summary, where no count is looked for. -/
def plainLine (detailed : Bool) (line : Text) : Except Fault (Option Problem) :=
  match if detailed then detail? line else none with
  | some sighting => some <$> sighting.problem
  | none => ((firstShape? ReportShape.single line).or (looseMention? line)).mapM Sighting.problem

/-- The problems on the lines of output, where blank lines alone are passed over. -/
def plainLines (detailed : Bool) : List Text → Except Fault (List Problem)
  | [] => .ok []
  | raw :: lines =>
    let line := trim raw
    if line.isEmpty then plainLines detailed lines
    else
      match summaryCount? line with
      | some count => (summaryProblem count :: ·) <$> plainLines true lines
      | none => do
        let found ← plainLine detailed line
        let more ← plainLines detailed lines
        .ok (found.toList ++ more)

def plainReport (output : Text) : Except Fault (List Problem) := plainLines false (outputLines output)

/-- The problems that a compiler run reports where `scan` finds those in its output. -/
def readReportBy (scan : Text → Except Fault (List Problem)) (output : Text) (source : Option (List Text)) :
    Except Fault (List Problem) :=
  if hasZeroSummary output then .ok []
  else do
    let problems ← scan output
    .ok (match source with
      | some lines => withSourceHints problems lines
      | none => problems)

def readReportWithBy (scan : Text → Except Fault (List Problem)) (output : Text)
    (source : Except Fault (Option (List Text))) : Except Fault (List Problem) := do
  let problems ← readReportBy scan output none
  if problems.all (·.place.isSome) then .ok problems else readReportBy scan output (← source)

theorem trim_within_outputLine {output raw : Text} (line : raw ∈ outputLines output) : trim raw <:+: output :=
  (infix_of_trim raw).trans ((infix_of_outputLines output).2 raw line)

theorem not_separator_of_mem_outputLines (s : Text) :
    ∀ line ∈ outputLines s, ∀ c ∈ line, isSeparator c = false := by
  fun_induction outputLines s with
  | case1 => simp
  | case2 s ih => simpa using ih
  | case3 c s _ _ ih => simpa using ih
  | case4 c s _ plain ih =>
    have solid : isSeparator c = false := by simpa using plain
    exact forall_mem_consHead solid ih

theorem inLine_of_mem_trim {output raw : Text} (line : raw ∈ outputLines output) :
    ∀ c ∈ trim raw, inLine c = true := by
  intro c hc
  have there : c ∈ raw := (infix_of_trim raw).subset hc
  exact inLine_of_not_separator (not_separator_of_mem_outputLines output raw line c there)

/-- On a line, a count with a name somewhere in front of it has all that is in front for its name. -/
theorem summaryCount?_of_countSummary {line : Text} (unbroken : ∀ c ∈ line, inLine c = true)
    (counted : (countSummary? line).isSome = true) : (summaryCount? line).isSome = true := by
  obtain ⟨sighting, found⟩ := Option.isSome_iff_exists.mp counted
  obtain ⟨count, here, _⟩ := Option.map_eq_some_iff.mp found
  obtain ⟨t, ⟨front, rfl⟩, inner⟩ := exists_suffix_of_leftmost here
  obtain ⟨rest, after, read⟩ := List.exists_of_findSome?_eq_some inner
  obtain ⟨name, given, rfl, _⟩ := mem_restsAfter.mp after
  have named : rest ∈ restsAfter inLine (front ++ (name ++ rest)) := by
    refine mem_restsAfter.mpr ⟨front ++ name, by simp [given], by simp, fun c hc => unbroken c ?_⟩
    rw [← List.append_assoc]
    exact List.mem_append_left rest hc
  rw [summaryCount?, List.findSome?_isSome_iff]
  exact ⟨rest, named, by rw [read]; rfl⟩

theorem firstShape?_all {line : Text} (uncounted : countSummary? line = none) :
    firstShape? ReportShape.all line = firstShape? ReportShape.single line := by
  simp [ReportShape.all, ReportShape.single, firstShape?, ReportShape.sighting?, uncounted]

/-- On lines that hold no break and no summary of zero errors the scan needs neither test. -/
theorem scanLines_eq_plainLines {lines : List Text} (detailed : Bool)
    (unbroken : ∀ raw ∈ lines, ∀ c ∈ trim raw, inLine c = true)
    (erring : ∀ raw ∈ lines, hasZeroSummary (trim raw) = false) :
    scanLines detailed lines = plainLines detailed lines := by
  induction lines generalizing detailed with
  | nil => rfl
  | cons raw lines ih =>
    have later := fun detailed => ih detailed (fun line hl => unbroken line (List.mem_cons_of_mem raw hl))
      fun line hl => erring line (List.mem_cons_of_mem raw hl)
    rw [scanLines, plainLines, erring raw List.mem_cons_self, Bool.or_false, later, later]
    cases counted : summaryCount? (trim raw) with
    | some count => rfl
    | none =>
      have uncounted : countSummary? (trim raw) = none := by
        by_contra counts
        have found := summaryCount?_of_countSummary (unbroken raw List.mem_cons_self)
          (Option.isSome_iff_ne_none.mpr counts)
        rw [counted] at found
        exact Bool.false_ne_true found
      have line : scanLine detailed (trim raw) = plainLine detailed (trim raw) := by
        unfold scanLine plainLine lineProblem?
        cases (if detailed then detail? (trim raw) else none) with
        | some sighting => rfl
        | none =>
          rw [firstShape?_all uncounted]
      rw [line]

theorem scanReport_eq_plainReport {output : Text} (erring : hasZeroSummary output = false) :
    scanReport output = plainReport output := by
  refine scanLines_eq_plainLines false (fun raw line => inLine_of_mem_trim line) fun raw line => ?_
  rw [← Bool.not_eq_true]
  intro zero
  rw [hasZeroSummary_of_within (trim_within_outputLine line) zero] at erring
  exact Bool.false_ne_true erring.symm

theorem readReport_eq_plain (output : Text) (source : Option (List Text)) :
    readReport output source = readReportBy plainReport output source := by
  have scanned : readReport output source = readReportBy scanReport output source := rfl
  rw [scanned]
  unfold readReportBy
  split
  next => rfl
  next erring => rw [scanReport_eq_plainReport (Bool.eq_false_iff.mpr erring)]

/-- The scan for problems needs no test for zero errors on a line, since a summary there is one of the whole
output, and no shape for a count of errors, since a line with a count is a summary. -/
theorem plain_scan_suffices (output : Text) :
    (∀ raw ∈ outputLines output, hasZeroSummary (trim raw) = true → hasZeroSummary output = true) ∧
      (∀ raw ∈ outputLines output,
        (countSummary? (trim raw)).isSome = true → (summaryCount? (trim raw)).isSome = true) ∧
      (hasZeroSummary output = false → scanReport output = plainReport output) ∧
      (∀ source, readReport output source = readReportBy plainReport output source) ∧
      ∀ source, readReportWith output source = readReportWithBy plainReport output source := by
  refine ⟨?_, ?_, scanReport_eq_plainReport, readReport_eq_plain output, fun source => ?_⟩
  · intro raw line
    exact hasZeroSummary_of_within (trim_within_outputLine line)
  · intro raw line
    exact summaryCount?_of_countSummary (inLine_of_mem_trim line)
  · unfold readReportWith readReportWithBy
    simp only [readReport_eq_plain]

theorem plain_scan_of_mixed_output :
    scanReport "p.sb: 2 errors.\u2028\nLine 1, Col 2: a\nError: b" =
        plainReport "p.sb: 2 errors.\u2028\nLine 1, Col 2: a\nError: b" ∧
      hasZeroSummary "p: 0 errors.\u2028q" = true ∧
      (summaryCount? (trim " a\t: 12 Error. ")).isSome = true :=
  ⟨(plain_scan_suffices _).2.2.1 (by decide), (plain_scan_suffices _).1 "p: 0 errors." (by decide) (by decide),
    (plain_scan_suffices " a\t: 12 Error. ").2.1 _ (by decide) (by decide)⟩

end BasicWorkbench
