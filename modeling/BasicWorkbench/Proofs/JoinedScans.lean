import BasicWorkbench.Proofs.ReportReading

namespace BasicWorkbench

theorem sightingsOn_append (detailed : Bool) (front rest : List Text) :
    sightingsOn detailed (front ++ rest) =
      sightingsOn detailed front ++ sightingsOn (detailed || front.any startsDetails) rest := by
  induction front generalizing detailed with
  | nil => rw [List.nil_append, List.any_nil, Bool.or_false, sightingsOn, List.nil_append]
  | cons raw front ih =>
    rw [List.cons_append, sightingsOn, ih, sightingsOn, List.any_cons, Bool.or_assoc, List.append_assoc]

theorem mem_sightingsOn {detailed : Bool} {lines : List Text} {sighting : Sighting} :
    sighting ∈ sightingsOn detailed lines ↔ ∃ front raw rest, lines = front ++ raw :: rest ∧
      sightingOn? (detailed || front.any startsDetails) raw = some sighting := by
  constructor
  · intro told
    induction lines generalizing detailed with
    | nil => simp [sightingsOn] at told
    | cons raw lines ih =>
      rcases List.mem_append.mp told with here | later
      · exact ⟨[], raw, lines, rfl, by simpa using here⟩
      · obtain ⟨front, raw', rest, rfl, found⟩ := ih later
        exact ⟨raw :: front, raw', rest, rfl, by rwa [List.any_cons, ← Bool.or_assoc]⟩
  · rintro ⟨front, raw, rest, rfl, found⟩
    rw [sightingsOn_append, sightingsOn, found]
    simp

/-- The scan of lines and more lines: details may follow on the further ones if a summary stood before or on the
first. -/
theorem scanLines_append (detailed : Bool) (front rest : List Text) :
    scanLines detailed (front ++ rest) = (do
      let first ← scanLines detailed front
      let second ← scanLines (detailed || front.any startsDetails) rest
      .ok (first ++ second)) := by
  rw [scanLines_eq, sightingsOn_append, List.mapM_append, ← scanLines_eq, ← scanLines_eq]
  rfl

/-- A line that is passed over and starts no details leaves the scan as it is. -/
theorem scanLines_cons_of_silent {raw : Text} (silent : ∀ detailed, sightingOn? detailed raw = none)
    (plain : startsDetails raw = false) (detailed : Bool) (lines : List Text) :
    scanLines detailed (raw :: lines) = scanLines detailed lines := by
  rw [scanLines_eq, sightingsOn, silent, plain, Bool.or_false, scanLines_eq]
  rfl

theorem outputLines_ne_nil {s : Text} (nonempty : s ≠ []) : outputLines s ≠ [] := by
  fun_cases outputLines s with
  | case1 => exact absurd rfl nonempty
  | case2 s => simp
  | case3 c s _ ends => simp
  | case4 c s _ inside => cases outputLines s <;> simp [consHead]

theorem consHead_append {lines : List Text} (nonempty : lines ≠ []) (c : Char) (more : List Text) :
    consHead c (lines ++ more) = consHead c lines ++ more := by
  obtain ⟨line, lines, rfl⟩ := List.exists_cons_of_ne_nil nonempty
  rfl

/-- A separator ends a line, unless it is the first half of a break. -/
theorem outputLines_cons_separator {c : Char} {s : Text} (ends : isSeparator c = true)
    (unpaired : c = '\r' → s.head? ≠ some '\n') : outputLines (c :: s) = [] :: outputLines s := by
  rw [outputLines]
  · rw [if_pos ends]
  · rintro rest rfl rfl
    exact unpaired rfl rfl

/-- A line feed behind a text ends its last line, or the break before it, or else an empty line. -/
theorem outputLines_append_feed (s t : Text) :
    ∃ gap ∈ [[], [[]]], outputLines (s ++ '\n' :: t) = outputLines s ++ gap ++ outputLines t := by
  fun_induction outputLines s with
  | case1 => exact ⟨[[]], by simp, rfl⟩
  | case2 s ih =>
    obtain ⟨gap, few, lines⟩ := ih
    exact ⟨gap, few, congrArg ([] :: ·) lines⟩
  | case3 c s unpaired ends ih =>
    by_cases completed : c = '\r' ∧ s = []
    · obtain ⟨rfl, rfl⟩ := completed
      exact ⟨[], by simp, rfl⟩
    · have apart : c = '\r' → (s ++ '\n' :: t).head? ≠ some '\n' := by
        intro returned
        cases s with
        | nil => exact absurd ⟨returned, rfl⟩ completed
        | cons d s =>
          intro fed
          exact unpaired s returned (congrArg (· :: s) (Option.some.inj fed))
      obtain ⟨gap, few, lines⟩ := ih
      refine ⟨gap, few, ?_⟩
      rw [List.cons_append, outputLines_cons_separator ends apart, lines]
      rfl
  | case4 c s unpaired inside ih =>
    have solid : isSeparator c = false := by simpa using inside
    rw [List.cons_append, outputLines_cons solid]
    cases s with
    | nil => exact ⟨[], by simp, rfl⟩
    | cons d s =>
      obtain ⟨gap, few, lines⟩ := ih
      have filled : outputLines (d :: s) ≠ [] := outputLines_ne_nil (by simp)
      refine ⟨gap, few, ?_⟩
      rw [lines, List.append_assoc, List.append_assoc, consHead_append filled]

def streamLabel : Text := "STDERR:"

/-- Streams shown together have the lines of both with the label between them, and at most an empty line in front
of it. -/
theorem outputLines_joinStreams (stdout : Text) {stderr : Text} (given : stderr ≠ []) :
    ∃ gap ∈ [[], [[]]],
      outputLines (joinStreams stdout stderr) = outputLines stdout ++ (gap ++ streamLabel :: outputLines stderr) := by
  obtain ⟨c, rest, rfl⟩ := List.exists_cons_of_ne_nil given
  have joined : joinStreams stdout (c :: rest) = stdout ++ '\n' :: (("STDERR:\n" : Text) ++ c :: rest) :=
    List.append_assoc _ _ _
  have labelled : outputLines (("STDERR:\n" : Text) ++ c :: rest) = streamLabel :: outputLines (c :: rest) := rfl
  obtain ⟨gap, few, lines⟩ := outputLines_append_feed stdout (("STDERR:\n" : Text) ++ c :: rest)
  refine ⟨gap, few, ?_⟩
  rw [joined, lines, labelled, List.append_assoc]

/-- The label says nothing and starts no details, and so does an empty line. -/
theorem scanLines_label {gap : List Text} (few : gap ∈ [[], [[]]]) (detailed : Bool) (lines : List Text) :
    scanLines detailed (gap ++ streamLabel :: lines) = scanLines detailed lines := by
  have label : scanLines detailed (streamLabel :: lines) = scanLines detailed lines :=
    scanLines_cons_of_silent (by decide) (by decide) detailed lines
  rw [← label]
  rcases List.mem_pair.mp few with rfl | rfl
  · rfl
  · exact scanLines_cons_of_silent (by decide) (by decide) detailed _

/-- The scan of two streams shown together is that of the first and then that of the second, where details may
follow if the first one has a summary. -/
theorem scanReport_joinStreams_eq {stdout stderr : Text} (given : stderr ≠ []) :
    scanReport (joinStreams stdout stderr) = (do
      let first ← scanReport stdout
      let second ← scanLines ((outputLines stdout).any startsDetails) (outputLines stderr)
      .ok (first ++ second)) := by
  obtain ⟨gap, few, lines⟩ := outputLines_joinStreams stdout given
  rw [scanReport, lines, scanLines_append, Bool.false_or, scanLines_label few]
  rfl

/-- Of two streams shown together the problems of the first are found and then those of the second, on which
details may follow a summary of the first. The label between them tells nothing, and the lines of both streams are
there as they are in each. -/
theorem scanReport_joinStreams {stdout stderr : Text} (given : stderr ≠ []) (short : ShortNumbers stdout)
    (short' : ShortNumbers stderr) :
    let detailed := (outputLines stdout).any startsDetails
    ∃ first second, scanReport stdout = .ok first ∧ scanLines detailed (outputLines stderr) = .ok second ∧
      scanReport (joinStreams stdout stderr) = .ok (first ++ second) ∧
      ∃ gap ∈ [[], [[]]],
        outputLines (joinStreams stdout stderr) =
          outputLines stdout ++ (gap ++ streamLabel :: outputLines stderr) := by
  intro detailed
  obtain ⟨first, scanned⟩ := scanLines_of_short (fun _ line => short.of_outputLines line) false
  obtain ⟨second, scanned'⟩ := scanLines_of_short (fun _ line => short'.of_outputLines line) detailed
  refine ⟨first, second, scanned, scanned', ?_, outputLines_joinStreams stdout given⟩
  have report : scanReport stdout = .ok first := scanned
  rw [scanReport_joinStreams_eq given, report, scanned']
  rfl

/-- A summary on one stream that ends in half a break, and a detail on the other behind a break. -/
theorem scanReport_of_summary_and_detail :
    let stdout : Text := "p.sb: 1 error.\r"
    let stderr : Text := "\nLine 3, Col 4: boom"
    scanReport (joinStreams stdout stderr) =
      .ok [.unplaced "The program has 1 errors. See detailed messages below.", ⟨"boom", some ⟨3, some 4⟩⟩] := by
  intro stdout stderr
  have short : ShortNumbers stdout := .of_length (by decide)
  have short' : ShortNumbers stderr := .of_length (by decide)
  obtain ⟨first, second, summary, detail, joined, _⟩ := scanReport_joinStreams (by decide) short short'
  have summary' : scanReport stdout = .ok [.unplaced "The program has 1 errors. See detailed messages below."] := by
    rfl
  have detail' : scanLines ((outputLines stdout).any startsDetails) (outputLines stderr) =
      .ok [⟨"boom", some ⟨3, some 4⟩⟩] := by
    rfl
  rw [summary'] at summary
  rw [detail'] at detail
  obtain rfl := Except.ok.inj summary
  obtain rfl := Except.ok.inj detail
  exact joined

end BasicWorkbench
