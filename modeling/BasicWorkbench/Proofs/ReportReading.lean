import BasicWorkbench.Machines
import BasicWorkbench.Proofs.Outcomes
import BasicWorkbench.Proofs.WrittenLines
import BasicWorkbench.Proofs.ZeroSummaries

namespace BasicWorkbench

theorem readNumber_cases (digits : Text) :
    (digits.length ≤ digitLimit ∧ readNumber digits = .ok (digitsValue digits)) ∨
      (digitLimit < digits.length ∧ readNumber digits = .error (.tooManyDigits digits.length)) := by
  unfold readNumber readDigits
  by_cases long : digitLimit < digits.length
  · exact .inr ⟨long, by simp [long]⟩
  · exact .inl ⟨Nat.le_of_not_lt long, by simp [long]⟩

/-- The numbers of a sighting are within the digit limit. -/
def Sighting.Fits (s : Sighting) : Prop := ∀ digits ∈ s.numbers, digits.length ≤ digitLimit

/-- No number that stands in the text is longer than the digit limit. -/
def ShortNumbers (s : Text) : Prop := ∀ digits, NumberIn s digits → digits.length ≤ digitLimit

theorem ShortNumbers.mono {s t : Text} (short : ShortNumbers t) (within : s <:+: t) : ShortNumbers s :=
  fun digits number => short digits (number.mono within)

theorem ShortNumbers.of_length {s : Text} (short : s.length ≤ digitLimit) : ShortNumbers s :=
  fun _ number => Nat.le_trans number.1.length_le short

theorem Sighting.From.fits {s : Text} {sighting : Sighting} (found : sighting.From s) (short : ShortNumbers s) :
    sighting.Fits :=
  fun digits hd => short digits (found.numbers digits hd)

/-- A sighting gives a problem, or one of its numbers is too long. -/
theorem Sighting.problem_cases {s : Sighting} (placed : s.line = none → s.column = none) :
    (s.Fits ∧ ∃ problem, s.problem = .ok problem) ∨
      ∃ digits ∈ s.numbers, digitLimit < digits.length ∧
        s.problem = .error (.tooManyDigits digits.length) := by
  obtain ⟨message, line, column⟩ := s
  cases line with
  | none =>
    obtain rfl : column = none := placed rfl
    exact .inl ⟨by simp [Fits, numbers], _, rfl⟩
  | some line =>
    rcases readNumber_cases line with ⟨short, read⟩ | ⟨long, failed⟩
    · cases column with
      | none =>
        refine .inl ⟨by simpa [Fits, numbers] using short, ⟨message, some ⟨digitsValue line, none⟩⟩, ?_⟩
        rw [problem_of_line, read]
        rfl
      | some column =>
        rcases readNumber_cases column with ⟨short', read'⟩ | ⟨long, failed⟩
        · refine .inl ⟨by simpa [Fits, numbers] using ⟨short, short'⟩,
            ⟨message, some ⟨digitsValue line, some (digitsValue column)⟩⟩, ?_⟩
          rw [problem_of_column, read, read']
          rfl
        · refine .inr ⟨column, by simp [numbers], long, ?_⟩
          rw [problem_of_column, read, failed]
          rfl
    · refine .inr ⟨line, by simp [numbers], long, ?_⟩
      cases column with
      | none =>
        rw [problem_of_line, failed]
        rfl
      | some column =>
        rw [problem_of_column, failed]
        rfl

/-- A problem keeps the message of its sighting, and has a line and a column where that has them. -/
structure Sighting.Keeps (s : Sighting) (problem : Problem) : Prop where
  message : problem.message = s.message
  place : problem.place.isSome = s.line.isSome
  column : problem.column?.isSome = s.column.isSome

theorem isSome_of_mapM_readNumber {digits : Option Text} {n : Option Int} (read : digits.mapM readNumber = .ok n) :
    n.isSome = digits.isSome := by
  cases digits with
  | none =>
    obtain rfl : none = n := Except.ok.inj read
    rfl
  | some digits =>
    obtain ⟨k, _, rfl⟩ := map_eq_ok.mp (show some <$> readNumber digits = .ok n from read)
    rfl

theorem Sighting.keeps_of_problem {s : Sighting} {problem : Problem} (made : s.problem = .ok problem) :
    s.Keeps problem := by
  obtain ⟨line, read, made⟩ := bind_eq_ok.mp made
  obtain ⟨column, read', made⟩ := bind_eq_ok.mp made
  have line' := isSome_of_mapM_readNumber read
  have column' := isSome_of_mapM_readNumber read'
  cases line with
  | some n =>
    obtain rfl := Except.ok.inj made
    exact ⟨rfl, line', column'⟩
  | none =>
    cases column with
    | none =>
      obtain rfl := Except.ok.inj made
      exact ⟨rfl, line', column'⟩
    | some k => contradiction

/-- What the problems of a report keep of their sightings can be read off either. -/
theorem map_eq_of_mapM_problem {α : Type} {f : Problem → α} {g : Sighting → α}
    (kept : ∀ {s p}, Sighting.Keeps s p → f p = g s) {sightings : List Sighting} {problems : List Problem}
    (made : sightings.mapM Sighting.problem = .ok problems) : problems.map f = sightings.map g := by
  induction sightings generalizing problems with
  | nil =>
    obtain rfl := Except.ok.inj made
    rfl
  | cons s sightings ih =>
    rw [List.mapM_cons, bind_eq_ok] at made
    obtain ⟨problem, first, made⟩ := made
    obtain ⟨rest, later, made⟩ := bind_eq_ok.mp made
    obtain rfl := Except.ok.inj made
    rw [List.map_cons, List.map_cons, ih later, kept (Sighting.keeps_of_problem first)]

theorem mapM_problem_cases {sightings : List Sighting}
    (placed : ∀ s ∈ sightings, s.line = none → s.column = none) :
    ((∀ s ∈ sightings, s.Fits) ∧ ∃ problems, sightings.mapM Sighting.problem = .ok problems) ∨
      ∃ s ∈ sightings, ∃ digits ∈ s.numbers, digitLimit < digits.length ∧
        sightings.mapM Sighting.problem = .error (.tooManyDigits digits.length) := by
  induction sightings with
  | nil => exact .inl ⟨by simp, [], rfl⟩
  | cons s sightings ih =>
    rw [List.mapM_cons]
    rcases Sighting.problem_cases (placed s List.mem_cons_self) with
      ⟨fits, problem, made⟩ | ⟨digits, hd, long, failed⟩
    · rcases ih fun t ht => placed t (List.mem_cons_of_mem s ht) with
        ⟨all, problems, rest⟩ | ⟨t, ht, digits, hd, long, failed⟩
      · refine .inl ⟨List.forall_mem_cons.mpr ⟨fits, all⟩, problem :: problems, ?_⟩
        rw [made, rest]
        rfl
      · refine .inr ⟨t, List.mem_cons_of_mem s ht, digits, hd, long, ?_⟩
        rw [made, failed]
        rfl
    · refine .inr ⟨s, List.mem_cons_self, digits, hd, long, ?_⟩
      rw [failed]
      rfl

theorem scanLines_of_short {lines : List Text} (short : ∀ raw ∈ lines, ShortNumbers raw) (detailed : Bool) :
    ∃ problems, scanLines detailed lines = .ok problems := by
  have told : ∀ s ∈ sightingsOn detailed lines, ∃ raw ∈ lines, s.From raw := fun _ => sightingsOn_from
  have placed : ∀ s ∈ sightingsOn detailed lines, s.line = none → s.column = none := by
    intro s hs
    obtain ⟨raw, _, found⟩ := told s hs
    exact found.placed
  rw [scanLines_eq]
  rcases mapM_problem_cases placed with ⟨_, made⟩ | ⟨s, hs, digits, hd, long, _⟩
  · exact made
  · obtain ⟨raw, hr, found⟩ := told s hs
    exact absurd (found.fits (short raw hr) digits hd) (Nat.not_le.mpr long)

theorem ShortNumbers.of_outputLines {output raw : Text} (short : ShortNumbers output)
    (line : raw ∈ outputLines output) : ShortNumbers raw :=
  short.mono ((infix_of_outputLines output).2 raw line)

/-- Where no problem lacks its place, the source has nothing to add. -/
theorem withSourceHints_of_placed {problems : List Problem}
    (placed : problems.all (·.place.isSome) = true) (lines : List Text) :
    withSourceHints problems lines = problems := by
  have all : problems.filter (·.place.isNone) = [] := by
    rw [List.filter_eq_nil_iff]
    intro p hp
    have known := List.all_eq_true.mp placed p hp
    rwa [Bool.not_eq_true, Option.isNone_eq_false_iff]
  rw [withSourceHints, all]
  exact List.append_nil problems

/-- That the source is looked for late makes no difference where it is found. -/
theorem readReportWith_ok (output : Text) (source : Option (List Text)) :
    readReportWith output (.ok source) = readReport output source := by
  unfold readReportWith readReport
  split
  next => rfl
  next =>
    cases scanReport output with
    | error fault => rfl
    | ok problems =>
      change (if problems.all (·.place.isSome) then Except.ok problems else _) = _
      split
      next placed =>
        cases source with
        | none => rfl
        | some lines => exact congrArg Except.ok (withSourceHints_of_placed placed lines).symm
      next => rfl

theorem readReport_of_zero {output : Text} (zero : hasZeroSummary output = true) (source : Option (List Text)) :
    readReport output source = .ok [] :=
  if_pos zero

section Scanned

variable {output : Text} {problems : List Problem} (erring : hasZeroSummary output = false)
  (scanned : scanReport output = .ok problems)

include erring scanned

theorem readReport_of_scan : readReport output none = .ok problems := by
  simp only [readReport, erring, scanned]
  rfl

theorem readReport_lines_of_scan (lines : List Text) :
    readReport output (some lines) = .ok (withSourceHints problems lines) := by
  simp only [readReport, erring, scanned]
  rfl

end Scanned

theorem sourceLines_of_file {m : Machine} {p : Path} {trail : Trail} {bytes : List UInt8}
    {runnable : Runnable} (found : m.find p = .ok (some (trail, .file bytes runnable))) :
    m.sourceLines p = .ok (some (editorLines (readableText bytes))) := by
  simp only [Machine.sourceLines, found]
  rfl

theorem readReport_cases (output : Text) (source : Option (List Text)) :
    ((hasZeroSummary output = true ∨ ∀ s ∈ reportSightings output, s.Fits) ∧
        ∃ problems, readReport output source = .ok problems) ∨
      (hasZeroSummary output = false ∧ (∃ s ∈ reportSightings output, ¬ s.Fits) ∧
        ∃ digits, NumberIn output digits ∧ digitLimit < digits.length ∧
          readReport output source = .error (.tooManyDigits digits.length)) := by
  cases zero : hasZeroSummary output with
  | true => exact .inl ⟨.inl rfl, [], readReport_of_zero zero source⟩
  | false =>
    have made : scanReport output = (reportSightings output).mapM Sighting.problem := scanLines_eq _ _
    rcases mapM_problem_cases fun s hs => (reportSightings_from hs).placed with
      ⟨fits, problems, read⟩ | ⟨s, hs, digits, hd, long, failed⟩
    · refine .inl ⟨.inr fits, ?_⟩
      rw [read] at made
      simp only [readReport, zero, made]
      exact ⟨_, rfl⟩
    · have excess : ¬ s.Fits := fun fits => Nat.not_lt.mpr (fits digits hd) long
      refine .inr ⟨rfl, ⟨s, hs, excess⟩, digits, (reportSightings_from hs).numbers digits hd, long, ?_⟩
      rw [failed] at made
      simp only [readReport, zero, made]
      rfl

theorem mem_of_hasZeroSummary {s : Text} (h : hasZeroSummary s = true) : '0' ∈ s := by
  induction s with
  | nil => simp [hasZeroSummary] at h
  | cons c s ih =>
    rcases Bool.or_eq_true_iff.mp h with here | later
    · obtain ⟨blanks, rest, rfl, _⟩ := startsZeroErrors_iff.mp (Bool.and_eq_true_iff.mp here).2
      simp
    · exact List.mem_cons_of_mem c (ih later)

theorem mem_of_summaryCount {s count : Text} (h : summaryCount? s = some count) : '.' ∈ s := by
  obtain ⟨r, hr, counted⟩ := List.exists_of_findSome?_eq_some h
  obtain ⟨blanks, blanks', word, rest, rfl, _⟩ := errorCount?_eq_some counted
  have within := suffix_of_mem_restsAfter hr
  exact within.subset (by simp)

theorem mem_of_errorAtLine {s : Text} {sighting : Sighting} (h : errorAtLine? s = some sighting) :
    ∃ c ∈ s, foldChar c = 'r' := by
  obtain ⟨t, within, h⟩ := exists_suffix_of_leftmost h
  obtain ⟨u, word, _⟩ := Option.bind_eq_some_iff.mp h
  obtain ⟨v, rfl, spelled⟩ := dropWord?_eq_some_iff.mp word
  have letter : 'r' ∈ v.map foldChar := by
    rw [spelled]
    decide
  obtain ⟨c, hc, same⟩ := List.mem_map.mp letter
  exact ⟨c, within.subset (List.mem_append_left u hc), same⟩

def lineOfDigits (n : Nat) : Text := "Line " ++ (List.replicate n '1' ++ ": boom")

theorem mem_lineOfDigits {n : Nat} {c : Char} (h : c ∈ lineOfDigits n) : c ∈ "Line 1: boom".toList := by
  rcases List.mem_append.mp h with word | h
  · exact List.mem_of_mem_take (i := 5) word
  · rcases List.mem_append.mp h with digit | message
    · rw [List.eq_of_mem_replicate digit]
      decide
    · exact List.mem_of_mem_drop (i := 6) message

theorem lineMessage?_lineOfDigits {n : Nat} (positive : 0 < n) :
    lineMessage? (lineOfDigits n) = some ⟨"boom", some (List.replicate n '1'), none⟩ := by
  have nonempty : List.replicate n '1' ≠ [] := by simpa using Nat.ne_of_gt positive
  have digits : ∀ c ∈ List.replicate n '1', c.isDigit = true := by
    intro c hc
    rw [List.eq_of_mem_replicate hc]
    decide
  have told : IsMessage "boom" := by decide
  exact lineMessage?_written told nonempty digits

theorem reportSightings_lineOfDigits {n : Nat} (positive : 0 < n) :
    reportSightings (lineOfDigits n) = [⟨"boom", some (List.replicate n '1'), none⟩] := by
  have solid : ∀ c ∈ "Line 1: boom".toList, isSeparator c = false := forall_mem_of_all (by decide)
  have unbroken : ∀ c ∈ lineOfDigits n, isSeparator c = false := fun c hc => solid c (mem_lineOfDigits hc)
  have lines : outputLines (lineOfDigits n) = [lineOfDigits n] :=
    outputLines_of_unbroken (by simp [lineOfDigits]) unbroken
  have trimmed : trim (lineOfDigits n) = lineOfDigits n := by
    refine trim_eq_self_iff.mpr ⟨fun c hc => ?_, fun c hc => ?_⟩
    · obtain rfl : 'L' = c := Option.some.inj hc
      decide
    · have last : (lineOfDigits n).getLast? = some 'm' := by
        simp only [lineOfDigits, List.getLast?_append]
        rfl
      obtain rfl : 'm' = c := Option.some.inj (last.symm.trans hc)
      decide
  have noZero : hasZeroSummary (lineOfDigits n) = false := by
    rw [← Bool.not_eq_true]
    intro zero
    exact absurd (mem_lineOfDigits (mem_of_hasZeroSummary zero)) (by decide)
  have noCount : summaryCount? (lineOfDigits n) = none := by
    rw [Option.eq_none_iff_forall_ne_some]
    intro count counted
    exact absurd (mem_lineOfDigits (mem_of_summaryCount counted)) (by decide)
  have noError : errorAtLine? (lineOfDigits n) = none := by
    rw [Option.eq_none_iff_forall_ne_some]
    intro sighting found
    obtain ⟨c, hc, same⟩ := mem_of_errorAtLine found
    have other : ∀ c ∈ "Line 1: boom".toList, foldChar c ≠ 'r' := forall_mem_of_all (by decide)
    exact other c (mem_lineOfDigits hc) same
  have message := lineMessage?_lineOfDigits positive
  have filled : (lineOfDigits n).isEmpty = false := rfl
  simp only [reportSightings, lines, sightingsOn, sightingOn?, trimmed, filled, noZero, noCount,
    lineSighting?, ReportShape.all, firstShape?, ReportShape.sighting?, noError, message]
  rfl

theorem fits_lineOfDigits_iff {n : Nat} (positive : 0 < n) :
    (∀ s ∈ reportSightings (lineOfDigits n), s.Fits) ↔ n ≤ digitLimit := by
  rw [reportSightings_lineOfDigits positive]
  simp [Sighting.Fits, Sighting.numbers]

/-- With no source or a readable one, the report is read unless a number that it tells of is too long; and
such a number is all that can go wrong. -/
theorem report_read_iff (m : Machine) (output : Text) {source : Option Path}
    (readable : ∀ p ∈ source, ∃ trail bytes runnable, m.find p = .ok (some (trail, .file bytes runnable))) :
    let result := readReportWith output ((source.map m.sourceLines).getD (.ok none))
    ((∃ problems, result = .ok problems) ↔
        hasZeroSummary output = true ∨ ∀ s ∈ reportSightings output, s.Fits) ∧
      ∀ fault, result = .error fault →
        ∃ digits, NumberIn output digits ∧ digitLimit < digits.length ∧
          fault = .tooManyDigits digits.length := by
  intro result
  obtain ⟨lines, given⟩ : ∃ lines, (source.map m.sourceLines).getD (.ok none) = .ok lines := by
    cases source with
    | none => exact ⟨none, rfl⟩
    | some p =>
      obtain ⟨trail, bytes, runnable, found⟩ := readable p rfl
      exact ⟨_, sourceLines_of_file found⟩
  have same : result = readReport output lines := by rw [← readReportWith_ok, ← given]
  rcases readReport_cases output lines with
    ⟨fits, problems, read⟩ | ⟨zero, ⟨s, hs, excess⟩, digits, number, long, failed⟩
  · rw [same, read]
    exact ⟨⟨fun _ => fits, fun _ => ⟨problems, rfl⟩⟩, fun fault failed => by simp at failed⟩
  · rw [same, failed]
    refine ⟨⟨fun ⟨_, read⟩ => by simp at read, ?_⟩, ?_⟩
    · rintro (counted | fits)
      · simp [zero] at counted
      · exact absurd (fits s hs) excess
    · intro fault eq
      exact ⟨digits, number, long, (Except.error.inj eq).symm⟩

/-- A line number is read with as many digits as the limit allows, but not with one more. -/
theorem report_unread_of_long_number :
    let m : Machine := ⟨[(["p"], .file [] .denied)], [], []⟩
    let source : Option Path := some (.ofText "/p")
    let result n := readReportWith (lineOfDigits n) ((source.map m.sourceLines).getD (.ok none))
    (∃ problems, result digitLimit = .ok problems) ∧
      ¬ ∃ problems, result (digitLimit + 1) = .ok problems := by
  intro m source result
  have readable : ∀ p ∈ source, ∃ trail bytes runnable,
      m.find p = .ok (some (trail, .file bytes runnable)) := by
    intro p hp
    obtain rfl : .ofText "/p" = p := Option.some.inj hp
    exact ⟨["p"], [], .denied, by decide⟩
  constructor
  · have fits := (fits_lineOfDigits_iff (n := digitLimit) (by decide)).mpr (Nat.le_refl _)
    exact (report_read_iff m (lineOfDigits digitLimit) readable).1.mpr (.inr fits)
  · intro read
    rcases (report_read_iff m (lineOfDigits (digitLimit + 1)) readable).1.mp read with zero | fits
    · exact absurd (mem_lineOfDigits (mem_of_hasZeroSummary zero)) (by decide)
    · have short := (fits_lineOfDigits_iff (Nat.succ_pos digitLimit)).mp fits
      omega

end BasicWorkbench
