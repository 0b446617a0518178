import BasicWorkbench.Proofs.CheckedSources
import BasicWorkbench.Proofs.PathTexts
import BasicWorkbench.Proofs.ReportReading

namespace BasicWorkbench

def missingThen (number : Nat) : Problem := ⟨"If statement missing \"Then\" keyword", some ⟨number, none⟩⟩

def unclosedString (number : Nat) : Problem := ⟨"Unclosed string (uneven number of quotes)", some ⟨number, none⟩⟩

theorem eq_of_same_place {p q : Problem} {i j : Nat} (here : p.place = some ⟨i, none⟩)
    (there : q.place = some ⟨j, none⟩) (same : p = q) : i = j := by
  subst same
  exact Int.ofNat.inj (congrArg Place.line (Option.some.inj (here.symm.trans there)))

theorem missingThen_inj {i j : Nat} : missingThen i = missingThen j ↔ i = j :=
  ⟨eq_of_same_place rfl rfl, congrArg missingThen⟩

theorem unclosedString_inj {i j : Nat} : unclosedString i = unclosedString j ↔ i = j :=
  ⟨eq_of_same_place rfl rfl, congrArg unclosedString⟩

theorem missingThen_ne_unclosedString (i j : Nat) : missingThen i ≠ unclosedString j := by
  have apart : (missingThen 0).message ≠ (unclosedString 0).message := by decide
  intro same
  have equal : (missingThen i).message = (unclosedString j).message := congrArg Problem.message same
  exact apart equal

section Lines

variable {lines : List Text} {p : Problem}

theorem lineHints_eq (raw : Text) (number : Nat) :
    lineHints raw number = (if lacksThen (trim raw) then [missingThen number] else []) ++
      (if leavesStringOpen (trim raw) then [unclosedString number] else []) := rfl

theorem mem_lineHints {raw : Text} {number : Nat} :
    p ∈ lineHints raw number ↔ lacksThen (trim raw) = true ∧ p = missingThen number ∨
      leavesStringOpen (trim raw) = true ∧ p = unclosedString number := by
  rw [lineHints_eq, List.mem_append]
  cases lacksThen (trim raw) <;> cases leavesStringOpen (trim raw) <;> simp

theorem mem_sourceHints :
    p ∈ sourceHints lines ↔ ∃ n line, lines[n]? = some line ∧ p ∈ lineHints line (n + 1) := by
  rw [sourceHints, List.mem_flatMap]
  constructor
  · rintro ⟨⟨line, number⟩, numbered, here⟩
    obtain ⟨first, there⟩ := List.mem_zipIdx_iff_le_and_getElem?_sub.mp numbered
    have back : number - 1 + 1 = number := Nat.sub_add_cancel first
    exact ⟨number - 1, line, there, by rwa [back]⟩
  · rintro ⟨n, line, there, here⟩
    refine ⟨(line, n + 1), List.mem_zipIdx_iff_le_and_getElem?_sub.mpr ⟨Nat.le_add_left 1 n, ?_⟩, here⟩
    rwa [Nat.add_sub_cancel]

theorem missingThen_mem_sourceHints {number : Nat} :
    missingThen number ∈ sourceHints lines ↔
      ∃ n line, lines[n]? = some line ∧ lacksThen (trim line) = true ∧ number = n + 1 := by
  simp only [mem_sourceHints, mem_lineHints, missingThen_inj, missingThen_ne_unclosedString, and_false, or_false]

theorem unclosedString_mem_sourceHints {number : Nat} :
    unclosedString number ∈ sourceHints lines ↔
      ∃ n line, lines[n]? = some line ∧ leavesStringOpen (trim line) = true ∧ number = n + 1 := by
  simp only [mem_sourceHints, mem_lineHints, unclosedString_inj, (missingThen_ne_unclosedString _ _).symm,
    and_false, false_or]

end Lines

/-- Of two hints the one is about an earlier line, or both are about one line and the Then comes first. -/
def Problem.HintedBefore (p q : Problem) : Prop :=
  ∃ i j : Nat, p.place = some ⟨i, none⟩ ∧ q.place = some ⟨j, none⟩ ∧
    (i < j ∨ i = j ∧ p = missingThen i ∧ q = unclosedString i)

theorem place_of_mem_lineHints {raw : Text} {number : Nat} {p : Problem} (here : p ∈ lineHints raw number) :
    p.place = some ⟨number, none⟩ := by
  rcases mem_lineHints.mp here with ⟨_, rfl⟩ | ⟨_, rfl⟩
  · rfl
  · rfl

theorem lineHints_ordered (raw : Text) (number : Nat) : (lineHints raw number).Pairwise Problem.HintedBefore := by
  have both : [missingThen number, unclosedString number].Pairwise Problem.HintedBefore :=
    List.pairwise_pair.mpr ⟨number, number, rfl, rfl, .inr ⟨rfl, rfl, rfl⟩⟩
  refine both.sublist ?_
  rw [lineHints_eq]
  cases lacksThen (trim raw) <;> cases leavesStringOpen (trim raw) <;> simp

theorem zipIdx_ordered (lines : List Text) (k : Nat) : (lines.zipIdx k).Pairwise fun a b => a.2 < b.2 := by
  refine List.pairwise_map.mp ?_
  rw [List.zipIdx_map_snd]
  exact List.pairwise_lt_range'

theorem sourceHints_ordered (lines : List Text) : (sourceHints lines).Pairwise Problem.HintedBefore := by
  refine List.pairwise_flatMap.mpr ⟨fun numbered _ => lineHints_ordered numbered.1 numbered.2, ?_⟩
  refine (zipIdx_ordered lines 1).imp ?_
  intro first second earlier p here q there
  exact ⟨first.2, second.2, place_of_mem_lineHints here, place_of_mem_lineHints there, .inl earlier⟩

/-- The hints that lines give, in the order of the lines: each is about the line whose number it has. -/
structure HintsOf (lines : List Text) (hints : List Problem) : Prop where
  told : ∀ p, p ∈ hints ↔ ∃ n line, lines[n]? = some line ∧
    (lacksThen (trim line) = true ∧ p = missingThen (n + 1) ∨
      leavesStringOpen (trim line) = true ∧ p = unclosedString (n + 1))
  placed : ∀ p ∈ hints, ∃ number : Nat, 1 ≤ number ∧ number ≤ lines.length ∧ p.place = some ⟨number, none⟩
  ordered : hints.Pairwise Problem.HintedBefore

theorem hintsOf_sourceHints (lines : List Text) : HintsOf lines (sourceHints lines) where
  told p := by simp only [mem_sourceHints, mem_lineHints]
  placed p hinted := by
    obtain ⟨n, line, there, here⟩ := mem_sourceHints.mp hinted
    obtain ⟨within, _⟩ := List.getElem?_eq_some_iff.mp there
    exact ⟨n + 1, by omega, within, place_of_mem_lineHints here⟩
  ordered := sourceHints_ordered lines

theorem withSourceHints_eq (problems : List Problem) (lines : List Text) :
    withSourceHints problems lines =
      problems ++ (List.replicate (problems.countP (·.place.isNone)) (sourceHints lines)).flatten := by
  rw [withSourceHints, List.flatMap_def, List.map_const', ← List.countP_eq_length_filter]

def addedHints (problems : List Problem) (lines : List Text) : List Problem :=
  (withSourceHints problems lines).drop problems.length

theorem mem_addedHints {problems : List Problem} {lines : List Text} {p : Problem} :
    p ∈ addedHints problems lines ↔ (∃ q ∈ problems, q.place = none) ∧ p ∈ sourceHints lines := by
  have unplaced : problems.countP (·.place.isNone) ≠ 0 ↔ ∃ q ∈ problems, q.place = none := by
    rw [← Nat.pos_iff_ne_zero, List.countP_pos_iff]
    simp only [Option.isNone_iff_eq_none]
  rw [addedHints, withSourceHints_eq, List.drop_left, List.mem_flatten, ← unplaced]
  constructor
  · rintro ⟨hints, copied, hinted⟩
    obtain ⟨some, rfl⟩ := List.mem_replicate.mp copied
    exact ⟨some, hinted⟩
  · rintro ⟨some, hinted⟩
    exact ⟨_, List.mem_replicate.mpr ⟨some, rfl⟩, hinted⟩

/-- Lines are what line feeds cut a text into once each break is one. -/
theorem splitBreaks_eq_splitAtChar (s : Text) : splitBreaks s = splitAtChar '\n' (unifyBreaks s) := by
  fun_induction unifyBreaks s with
  | case1 => rfl
  | case2 s ih => rw [splitBreaks, ih, splitAtChar_separator]
  | case3 c s other ih =>
    obtain ⟨line, lines, later, now⟩ := splitAtChar_cons '\n' (if c = '\r' then '\n' else c) (unifyBreaks s)
    have first : splitBreaks (c :: s) =
        if c = '\r' || c = '\n' then [] :: splitBreaks s else consHead c (splitBreaks s) := by
      rw [splitBreaks]
      exact other
    rw [first, now, ih, later]
    by_cases carriage : c = '\r'
    · simp [carriage]
    · by_cases feed : c = '\n' <;> simp [carriage, feed, consHead]

/-- A report without too long numbers and with a source to look at: behind the problems that it tells of without
the source stand, once for every problem without a place, the hints of the source's lines as an editor has them. -/
theorem report_hinted {m : Machine} {output : Text} {source : Path} {trail : Trail} {bytes : List UInt8}
    {runnable : Runnable} (short : ShortNumbers output)
    (found : m.find source = .ok (some (trail, .file bytes runnable))) :
    let lines := editorLines (dropMark (decodeLossy bytes))
    HintsOf lines (sourceHints lines) ∧
      lines = splitAtChar '\n' (unifyBreaks (dropMark (dropMark (decodeLossy bytes)))) ∧
      ∃ problems, readReportWith output (.ok none) = .ok problems ∧
        readReportWith output (m.sourceLines source) =
          .ok (problems ++ (List.replicate (problems.countP (·.place.isNone)) (sourceHints lines)).flatten) := by
  intro lines
  have given : m.sourceLines source = .ok (some lines) := by
    rw [sourceLines_of_file found, readableText, editorLines_unifyBreaks]
  refine ⟨hintsOf_sourceHints lines, splitBreaks_eq_splitAtChar _, ?_⟩
  rw [given, readReportWith_ok, readReportWith_ok]
  cases zero : hasZeroSummary output with
  | true => exact ⟨[], readReport_of_zero zero none, readReport_of_zero zero lines⟩
  | false =>
    obtain ⟨problems, scanned⟩ := scanLines_of_short (fun raw line => short.of_outputLines line) false
    refine ⟨problems, readReport_of_scan zero scanned, ?_⟩
    rw [readReport_lines_of_scan zero scanned, withSourceHints_eq]

/-- Two problems without a place, and a source with a mark in front and three kinds of breaks. -/
theorem report_hinted_twice :
    let output : Text := "Error: oops\np.sb: 1 error.\nLine 3: a"
    let m : Machine := ⟨[(["p"], .file (encodeUtf8 "\ufeffx = \"a\r\nIf y\u2028\rIf \"z\n") .denied)], [], []⟩
    let hints := [unclosedString 1, missingThen 2, missingThen 3, unclosedString 3]
    readReportWith output (m.sourceLines (.ofText "/p")) =
      .ok ([.unplaced "oops", summaryProblem "1", ⟨"a", some ⟨3, none⟩⟩] ++ (hints ++ hints)) := by
  intro output m hints
  have short : ShortNumbers output := .of_length (by decide)
  have found : m.find (.ofText "/p") =
      .ok (some (["p"], .file (encodeUtf8 "\ufeffx = \"a\r\nIf y\u2028\rIf \"z\n") .denied)) := by rfl
  obtain ⟨_, _, problems, read, hinted⟩ := report_hinted short found
  have told : readReportWith output (.ok none) =
      .ok [.unplaced "oops", summaryProblem "1", ⟨"a", some ⟨3, none⟩⟩] := by rfl
  rw [told] at read
  obtain rfl := Except.ok.inj read
  rw [hinted]
  rfl

end BasicWorkbench
