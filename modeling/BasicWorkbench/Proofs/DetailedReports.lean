import BasicWorkbench.Proofs.WrittenReports
import BasicWorkbench.Proofs.ZeroSummaries

namespace BasicWorkbench

theorem Detail.written_eq_cons (d : Detail) : ∃ rest, d.written = 'L' :: rest := ⟨_, rfl⟩

theorem outputLines_written {line : Text} {details : List (LineBreak × Detail)} (nonempty : line ≠ [])
    (unbroken : ∀ c ∈ line, isSeparator c = false)
    (details_unbroken : ∀ d ∈ details, ∀ c ∈ d.2.written, isSeparator c = false) :
    outputLines (line ++ details.flatMap fun d => d.1.text ++ d.2.written) =
      line :: details.map fun d => d.2.written := by
  induction details generalizing line with
  | nil => simpa using outputLines_of_unbroken nonempty unbroken
  | cons d details ih =>
    obtain ⟨rest, filled⟩ := d.2.written_eq_cons
    have solid : (d.2.written ++ details.flatMap fun d => d.1.text ++ d.2.written).head? ≠ some '\n' := by
      rw [filled]
      simp
    rw [List.flatMap_cons, List.append_assoc, outputLines_line_break unbroken d.1 solid,
      ih (by simp [filled]) (details_unbroken d List.mem_cons_self) fun e he =>
        details_unbroken e (List.mem_cons_of_mem d he)]
    rfl

theorem Detail.unbroken_written {d : Detail} (fills : FillsLine d.message) :
    ∀ c ∈ d.written, isSeparator c = false := by
  have digits : ∀ n, ∀ c ∈ natText n, isSeparator c = false := fun n c hc =>
    not_separator_of_ascii_digit (isDigit_of_mem_natText hc)
  have column : ∀ c ∈ d.columnText, isSeparator c = false := by
    unfold columnText
    cases d.column with
    | none => simp
    | some column => exact List.forall_mem_append.mpr ⟨forall_mem_of_all (by decide), digits column⟩
  have start : ∀ c ∈ "Line ".toList, isSeparator c = false := forall_mem_of_all (by decide)
  have colon : ∀ c ∈ ": ".toList, isSeparator c = false := forall_mem_of_all (by decide)
  refine List.forall_mem_append.mpr ⟨start, List.forall_mem_append.mpr ⟨digits d.line, ?_⟩⟩
  exact List.forall_mem_append.mpr ⟨column, List.forall_mem_append.mpr ⟨colon, fills.unbroken⟩⟩

theorem unbroken_writtenSummary {name : Text} (named : FillsLine name) (count : Nat) :
    ∀ c ∈ writtenSummary name count, isSeparator c = false := by
  have digits : ∀ c ∈ natText count, isSeparator c = false := fun c hc =>
    not_separator_of_ascii_digit (isDigit_of_mem_natText hc)
  have colon : ∀ c ∈ ": ".toList, isSeparator c = false := forall_mem_of_all (by decide)
  have errors : ∀ c ∈ " errors.".toList, isSeparator c = false := forall_mem_of_all (by decide)
  refine List.forall_mem_append.mpr ⟨named.unbroken, List.forall_mem_append.mpr ⟨colon, ?_⟩⟩
  exact List.forall_mem_append.mpr ⟨digits, errors⟩

/-- No summary of zero errors runs over a break in front of a detail. -/
theorem separates_detail (b : LineBreak) (d : Detail) (rest : Text) :
    Separates (b.text ++ (d.written ++ rest)) := by
  cases b with
  | lineFeed => exact ⟨⟨_, _, rfl, by decide⟩, rfl, rfl⟩
  | pair => exact ⟨⟨_, _, rfl, by decide⟩, rfl, rfl⟩
  | carriageReturn => exact ⟨⟨_, _, rfl, by decide⟩, rfl, rfl⟩

theorem hasZeroSummary_break (b : LineBreak) (d : Detail) (rest : Text) :
    hasZeroSummary (b.text ++ (d.written ++ rest)) = hasZeroSummary (d.written ++ rest) := by
  cases b <;> rfl

theorem hasZeroSummary_written {line : Text} {details : List (LineBreak × Detail)}
    (first : hasZeroSummary line = false) (others : ∀ d ∈ details, hasZeroSummary d.2.written = false) :
    hasZeroSummary (line ++ details.flatMap fun d => d.1.text ++ d.2.written) = false := by
  induction details generalizing line with
  | nil => simpa using first
  | cons d details ih =>
    rw [List.flatMap_cons, List.append_assoc, (separates_detail d.1 d.2 _).hasZeroSummary_append, first,
      hasZeroSummary_break, ih (others d List.mem_cons_self) fun e he => others e (List.mem_cons_of_mem d he)]
    rfl

theorem no_colon_of_atEnd {s : Text} (h : atEnd s = true) : ':' ∉ s := by
  match s with
  | [] => simp
  | [c] =>
    obtain rfl : c = '\n' := by simpa [atEnd] using h
    decide
  | _ :: _ :: _ => simp [atEnd] at h

/-- A count has the only colon of its text in front. -/
theorem errorCount?_colon {s count : Text} (h : errorCount? s = some count) :
    ∃ rest, s = ':' :: rest ∧ ':' ∉ rest := by
  obtain ⟨blanks, blanks', word, rest, rfl, all, numeric, all', spelled, ends⟩ := errorCount?_eq_some h
  have solid : isBlank ':' = false := by decide
  refine ⟨_, rfl, ?_⟩
  simp only [List.mem_append, List.mem_cons, not_or]
  refine ⟨fun hc => ?_, fun hc => ?_, fun hc => ?_, fun hc => ?_, by decide, no_colon_of_atEnd ends⟩
  · simp [all _ hc] at solid
  · exact absurd (numeric _ hc) (by decide)
  · simp [all' _ hc] at solid
  · have letter : ':' ∈ word.map foldChar := List.mem_map.mpr ⟨':', hc, rfl⟩
    rcases spelled with singular | plural
    · exact absurd (singular ▸ letter) (by decide)
    · exact absurd (plural ▸ letter) (by decide)

theorem eq_of_last_colon {s a b : Text} (ha : ':' :: a <:+ s) (hb : ':' :: b <:+ s) (na : ':' ∉ a)
    (nb : ':' ∉ b) : a = b := by
  rcases List.suffix_or_suffix_of_suffix ha hb with within | within
  · rcases List.suffix_cons_iff.mp within with same | inside
    · exact (List.cons.inj same).2
    · exact absurd (inside.subset List.mem_cons_self) nb
  · rcases List.suffix_cons_iff.mp within with same | inside
    · exact (List.cons.inj same).2.symm
    · exact absurd (inside.subset List.mem_cons_self) na

theorem takeCount?_append {digits rest : Text} {c : Char} (nonempty : digits ≠ [])
    (all : ∀ d ∈ digits, d.isDigit = true) (head : digits.head? ≠ some '0') (other : c.isDigit = false) :
    takeCount? (digits ++ c :: rest) = some (digits, c :: rest) := by
  have stops : (c :: rest).takeWhile Char.isDigit = [] := List.takeWhile_cons_of_neg (by simp [other])
  obtain ⟨taken, left⟩ := span_append all stops
  unfold takeCount?
  rw [taken, left]
  cases digits with
  | nil => exact absurd rfl nonempty
  | cons d digits =>
    have solid : d ≠ '0' := by simpa using head
    exact if_neg solid

theorem errorCount?_written {count : Nat} (positive : 0 < count) :
    errorCount? (": " ++ (natText count ++ " errors.")) = some (natText count) := by
  have digits : ∀ c ∈ natText count, c.isDigit = true := fun c => isDigit_of_mem_natText
  have blank : dropBlanks? (' ' :: (natText count ++ " errors.")) = some (natText count ++ " errors.") := by
    obtain ⟨d, rest, eq⟩ := List.exists_cons_of_ne_nil (natText_ne_nil count)
    rw [eq] at digits ⊢
    exact dropBlanks?_space (not_blank_of_ascii_digit (digits d List.mem_cons_self)) _
  have counted : takeCount? (natText count ++ " errors.") = some (natText count, " errors.".toList) :=
    takeCount?_append (natText_ne_nil count) digits (natText_head positive) (by decide)
  have stop : errorsAndStop? " errors." = some [] := rfl
  have colon : dropWord? ":" (": " ++ (natText count ++ " errors.")) =
      some (' ' :: (natText count ++ " errors.")) := rfl
  unfold errorCount?
  rw [colon, Option.bind_eq_bind, Option.bind_some, blank, Option.bind_eq_bind, Option.bind_some, counted,
    Option.bind_some]
  dsimp only
  rw [stop]
  rfl

theorem summaryCount?_written {name : Text} (named : FillsLine name) {count : Nat} (positive : 0 < count) :
    summaryCount? (writtenSummary name count) = some (natText count) := by
  have counted := errorCount?_written positive
  have here : ": " ++ (natText count ++ " errors.") ∈ restsAfter inLine (writtenSummary name count) :=
    mem_restsAfter.mpr ⟨name, named.nonempty, rfl, fun c hc => inLine_of_not_separator (named.unbroken c hc)⟩
  obtain ⟨found, read⟩ := Option.isSome_iff_exists.mp
    (List.findSome?_isSome_iff.mpr ⟨_, here, Option.isSome_of_mem counted⟩)
  obtain ⟨rest, hr, again⟩ := List.exists_of_findSome?_eq_some read
  -- Every count that can be read has the last colon of the line in front, so that there is only one.
  obtain ⟨a, rfl, na⟩ := errorCount?_colon again
  obtain ⟨b, eq, nb⟩ := errorCount?_colon counted
  have same := eq_of_last_colon (suffix_of_mem_restsAfter hr) (eq ▸ suffix_of_mem_restsAfter here) na nb
  have value : some found = some (natText count) := by
    rw [← again, same, ← eq, counted]
  exact read.trans value

theorem trim_written {d : Detail} (fills : FillsLine d.message) : trim d.written = d.written := by
  have ends := trim_eq_self_iff.mp fills.trimmed
  refine trim_eq_self_iff.mpr ⟨fun c hc => ?_, fun c hc => ends.2 c ?_⟩
  · obtain ⟨rest, filled⟩ := d.written_eq_cons
    obtain rfl : 'L' = c := by simpa [filled] using hc
    decide
  · obtain ⟨x, message, eq⟩ := List.exists_cons_of_ne_nil fills.nonempty
    rw [← hc]
    simp only [Detail.written, List.getLast?_append, eq]
    rfl

theorem trim_writtenSummary {name : Text} (named : FillsLine name) (count : Nat) :
    trim (writtenSummary name count) = writtenSummary name count := by
  have ends := trim_eq_self_iff.mp named.trimmed
  obtain ⟨x, rest, rfl⟩ := List.exists_cons_of_ne_nil named.nonempty
  refine trim_eq_self_iff.mpr ⟨fun c hc => ends.1 c hc, fun c hc => ?_⟩
  obtain rfl : '.' = c := by
    have last : (writtenSummary (x :: rest) count).getLast? = some '.' := by
      simp only [writtenSummary, List.getLast?_append]
      rfl
    exact Option.some.inj (last.symm.trans hc)
  decide

theorem scanLines_details {details : List Detail} (messages : ∀ d ∈ details, FillsLine d.message)
    (fits : ∀ d ∈ details, d.Fits) (noZero : ∀ d ∈ details, hasZeroSummary d.written = false)
    (noSummary : ∀ d ∈ details, summaryCount? d.written = none) :
    scanLines true (details.map Detail.written) = .ok (details.map Detail.problem) := by
  induction details with
  | nil => rfl
  | cons d details ih =>
    have rest := ih (fun e he => messages e (List.mem_cons_of_mem d he))
      (fun e he => fits e (List.mem_cons_of_mem d he)) (fun e he => noZero e (List.mem_cons_of_mem d he))
      (fun e he => noSummary e (List.mem_cons_of_mem d he))
    have here : scanLine true d.written = .ok (some d.problem) := by
      simp only [scanLine, if_true, Detail.detail?_written (messages d List.mem_cons_self),
        Detail.problem_of_written (fits d List.mem_cons_self)]
      rfl
    have filled : d.written.isEmpty = false := rfl
    simp only [List.map_cons, scanLines, trim_written (messages d List.mem_cons_self), filled,
      noZero d List.mem_cons_self, noSummary d List.mem_cons_self, here, rest]
    rfl

/-- A summary and its details are read back in full, whatever breaks stand between the lines. -/
theorem readReport_written {name : Text} {count : Nat} {details : List (LineBreak × Detail)}
    (named : FillsLine name) (positive : 0 < count) (messages : ∀ d ∈ details, FillsLine d.2.message)
    (numbers : ∀ d ∈ details, d.2.Fits) (summaryCounts : hasZeroSummary (writtenSummary name count) = false)
    (detailsCount : ∀ d ∈ details, hasZeroSummary d.2.written = false)
    (detailsOnly : ∀ d ∈ details, summaryCount? d.2.written = none) :
    readReportWith (writtenReport name count details) (.ok none) =
      .ok (summaryProblem (natText count) :: details.map fun d => d.2.problem) := by
  have noZero : hasZeroSummary (writtenReport name count details) = false :=
    hasZeroSummary_written summaryCounts detailsCount
  have lines : outputLines (writtenReport name count details) =
      writtenSummary name count :: (details.map Prod.snd).map Detail.written := by
    rw [List.map_map]
    exact outputLines_written (by simp [writtenSummary]) (unbroken_writtenSummary named count)
      fun d hd => Detail.unbroken_written (messages d hd)
  have rest : scanLines true ((details.map Prod.snd).map Detail.written) =
      .ok ((details.map Prod.snd).map Detail.problem) :=
    scanLines_details (List.forall_mem_map.mpr messages) (List.forall_mem_map.mpr numbers)
      (List.forall_mem_map.mpr detailsCount) (List.forall_mem_map.mpr detailsOnly)
  have filled : (writtenSummary name count).isEmpty = false := by simp [writtenSummary]
  have scanned : scanReport (writtenReport name count details) =
      .ok (summaryProblem (natText count) :: details.map fun d => d.2.problem) := by
    simp only [scanReport, lines, scanLines, trim_writtenSummary named, filled, summaryCounts, Bool.or_self,
      Bool.false_eq_true, if_false, summaryCount?_written named positive, rest]
    rw [List.map_map]
    rfl
  have read : readReport (writtenReport name count details) none =
      .ok (summaryProblem (natText count) :: details.map fun d => d.2.problem) := by
    simp only [readReport, noZero, scanned]
    rfl
  unfold readReportWith
  rw [read]
  -- The summary has no place, so that a source is looked for and there is none.
  exact read

def mixedDetails : List (LineBreak × Detail) :=
  [(.pair, ⟨"boom", 3, some 40⟩), (.carriageReturn, ⟨"Error: x at line 7", 12, none⟩),
    (.lineFeed, ⟨"0: y", 5, none⟩)]

theorem readReport_mixedDetails :
    writtenReport "prog.sb" 3 mixedDetails =
      "prog.sb: 3 errors.\r\nLine 3, Col 40: boom\rLine 12: Error: x at line 7\nLine 5: 0: y" ∧
    readReportWith (writtenReport "prog.sb" 3 mixedDetails) (.ok none) =
      .ok [.unplaced "The program has 3 errors. See detailed messages below.",
        ⟨"boom", some ⟨3, some 40⟩⟩, ⟨"Error: x at line 7", some ⟨12, none⟩⟩, ⟨"0: y", some ⟨5, none⟩⟩] := by
  have named : FillsLine "prog.sb" := by decide
  have messages : ∀ d ∈ mixedDetails, FillsLine d.2.message := by decide
  have numbers : ∀ d ∈ mixedDetails, d.2.Fits := by decide
  have noZero : ∀ d ∈ mixedDetails, hasZeroSummary d.2.written = false := by decide
  have noSummary : ∀ d ∈ mixedDetails, summaryCount? d.2.written = none := by decide
  exact ⟨by decide, readReport_written named (by decide) messages numbers (by decide) noZero noSummary⟩

end BasicWorkbench
