import BasicWorkbench.Proofs.ErrorPlaces
import BasicWorkbench.Proofs.ReportReading

namespace BasicWorkbench

/-- The text holds no colon and ends in a digit. -/
structure EndsInNumber (s : Text) : Prop where
  plain : ':' ∉ s
  last : ∃ d, s.getLast? = some d ∧ isDigit d = true

theorem EndsInNumber.of_digits {digits : Text} (nonempty : digits ≠ [])
    (numeric : ∀ d ∈ digits, isDigit d = true) : EndsInNumber digits where
  plain := fun colon => absurd (numeric ':' colon) (by decide)
  last := ⟨_, List.getLast?_eq_some_getLast nonempty, numeric _ (List.getLast_mem nonempty)⟩

theorem EndsInNumber.append {s t : Text} (ends : EndsInNumber t) (plain : ':' ∉ s) : EndsInNumber (s ++ t) where
  plain := fun colon => (List.mem_append.mp colon).elim plain ends.plain
  last := by
    obtain ⟨d, last, numeric⟩ := ends.last
    exact ⟨d, by rw [List.getLast?_append, last]; rfl, numeric⟩

theorem no_colon_of_spelling {v w : Text} (spelled : v.map foldChar = w) (plain : ':' ∉ w) : ':' ∉ v := by
  intro colon
  have folded : foldChar ':' ∈ v.map foldChar := List.mem_map_of_mem colon
  rw [spelled] at folded
  exact plain folded

theorem no_colon_of_blanks {blanks : Text} (blank : ∀ c ∈ blanks, isBlank c = true) : ':' ∉ blanks :=
  fun colon => absurd (blank ':' colon) (by decide)

/-- The note of a column, if there is one, ends in its number. -/
theorem colPart_eq (s : Text) : ∃ note, s = note ++ (colPart s).2 ∧ (note = [] ∨ EndsInNumber note) := by
  unfold colPart
  cases noted : colNote? s with
  | none => exact ⟨[], rfl, .inl rfl⟩
  | some found =>
    obtain ⟨column, rest⟩ := found
    obtain ⟨t, comma, h⟩ := Option.bind_eq_some_iff.mp noted
    obtain ⟨u, word, read⟩ := Option.bind_eq_some_iff.mp h
    obtain ⟨v, same, spelled⟩ := dropWord?_eq_some_iff.mp word
    obtain ⟨gap, rfl, apart, nonempty, numeric⟩ := blanksAndDigits?_eq_some read
    have front : t = t.takeWhile isBlank ++ trimStart t := List.takeWhile_append_dropWhile.symm
    have ends := EndsInNumber.of_digits nonempty numeric
    have ends' := (ends.append (no_colon_of_blanks apart.blank)).append (no_colon_of_spelling spelled (by decide))
    have ends'' := ends'.append (no_colon_of_blanks fun c => List.mem_takeWhile_imp (l := t))
    refine ⟨_, ?_, .inr (ends''.append (s := [',']) (by decide))⟩
    rw [(dropWord?_sign (x := ',') rfl rfl).mp comma]
    nth_rewrite 1 [front]
    simp [same]

theorem detail?_eq_some {line : Text} {told : Sighting} (fills : FillsLine line) (h : detail? line = some told) :
    ∃ front gap, line = front ++ ':' :: (gap ++ told.message) ∧ EndsInNumber front ∧ IsGap gap := by
  rw [detail?_eq] at h
  obtain ⟨t, word, h⟩ := Option.bind_eq_some_iff.mp h
  obtain ⟨⟨digits, u⟩, placed, h⟩ := Option.bind_eq_some_iff.mp h
  obtain ⟨rest, colon, h⟩ := Option.bind_eq_some_iff.mp h
  obtain ⟨message, read, h⟩ := Option.bind_eq_some_iff.mp h
  obtain rfl := Option.some.inj h
  obtain ⟨v, rfl, spelled⟩ := dropWord?_eq_some_iff.mp word
  obtain ⟨gap, rfl, apart, nonempty, numeric⟩ := blanksAndDigits?_eq_some placed
  obtain ⟨note, noted, part⟩ := colPart_eq u
  rw [(dropWord?_sign (x := ':') rfl rfl).mp colon] at noted
  have within : rest <:+ v ++ (gap ++ (digits ++ u)) := by
    rw [noted]
    exact ⟨v ++ (gap ++ (digits ++ (note ++ [':']))), by simp⟩
  rw [fills.messageAfterBlanks?_eq within rfl] at read
  obtain ⟨gap', nonempty', blank', rfl, _⟩ := dropBlanks?_eq_some_iff.mp read
  have ends : EndsInNumber (digits ++ note) := by
    rcases part with rfl | part
    · rw [List.append_nil]
      exact .of_digits nonempty numeric
    · exact part.append (EndsInNumber.of_digits nonempty numeric).plain
  have ends' := (ends.append (no_colon_of_blanks apart.blank)).append (no_colon_of_spelling spelled (by decide))
  refine ⟨_, gap', ?_, ends', ⟨nonempty', blank'⟩⟩
  rw [noted]
  simp

theorem lineMessage?_of_detail {line : Text} {told : Sighting} (fills : FillsLine line)
    (h : detail? line = some told) (uncolumned : told.column = none) : lineMessage? line = some told := by
  rw [detail?_eq] at h
  obtain ⟨t, word, h⟩ := Option.bind_eq_some_iff.mp h
  obtain ⟨⟨digits, u⟩, placed, h⟩ := Option.bind_eq_some_iff.mp h
  obtain ⟨rest, colon, h⟩ := Option.bind_eq_some_iff.mp h
  obtain ⟨message, read, h⟩ := Option.bind_eq_some_iff.mp h
  obtain rfl := Option.some.inj h
  have unnoted : colPart u = (none, u) := by
    unfold colPart at uncolumned ⊢
    cases noted : colNote? u with
    | none => rfl
    | some found => simp [noted] at uncolumned
  rw [unnoted] at colon ⊢
  have within := (((suffix_of_dropWord colon).trans (blanksAndDigits?_spec placed).2).trans (suffix_of_dropWord word))
  have open' : openMessage? rest = some message := by
    rw [← read, openMessage?, fills.messageAfterBlanks?_eq within rfl, fills.messageAfterBlanks?_eq within rfl]
  refine leftmost_of_here ?_
  simp only [word, Option.bind_eq_bind, Option.bind_some, placed, colon, open']

theorem foldChar_ne_of_digit {c : Char} (numeric : isDigit c = true) : foldChar c ≠ 'r' := by
  by_cases ascii : c.toNat < 128
  · exact forall_ascii (p := fun c => isDigit c = true → foldChar c ≠ 'r') (by decide) ascii numeric
  · rcases foldChar_of_beyond_ascii (Nat.le_of_not_lt ascii) with kept | ⟨_, i | s | k⟩
    · rw [kept]
      rintro rfl
      exact ascii (by decide)
    · rw [i]; decide
    · rw [s]; decide
    · rw [k]; decide

theorem eq_of_first_colon {a b s t : Text} (ha : ':' ∉ a) (hb : ':' ∉ b) (same : a ++ ':' :: s = b ++ ':' :: t) :
    a = b := by
  have front : ∀ {a : Text} (s : Text), ':' ∉ a → (a ++ ':' :: s).takeWhile (· != ':') = a := by
    intro a s plain
    refine (span_append (fun c hc => ?_) (List.takeWhile_cons_of_neg (by simp))).1
    rw [bne_iff_ne]
    rintro rfl
    exact plain hc
  rw [← front s ha, same, front t hb]

/-- An error with its line that is told on the line of a detail is told inside its message. -/
theorem suffix_message_of_errorAtLine {front gap message start spelled rest : Text} (ends : EndsInNumber front)
    (apart : IsGap gap) (spelling : spelled.map foldChar = "error:".toList)
    (same : front ++ ':' :: (gap ++ message) = start ++ (spelled ++ rest)) : spelled ++ rest <:+ message := by
  have head : ∀ {c : Char} {t : Text}, spelled ++ rest = c :: t → foldChar c = 'e' := by
    obtain ⟨e, tail, rfl, letter, _⟩ := List.map_eq_cons_iff.mp spelling
    intro c t same
    rwa [← (List.cons.inj same).1]
  rcases List.append_eq_append_iff.mp same with ⟨skipped, _, behind⟩ | ⟨word, front', behind⟩
  · cases skipped with
    | nil => exact absurd (head behind.symm) (by decide)
    | cons c skipped =>
      rcases List.append_eq_append_iff.mp (List.cons.inj behind).2 with ⟨t, _, inside⟩ | ⟨blanks, gap', inside⟩
      · exact ⟨t, inside.symm⟩
      · cases blanks with
        | nil => exact inside ▸ List.suffix_rfl
        | cons b blanks =>
          have blank : isBlank b = true := apart.blank b (by simp [gap'])
          rw [← isBlank_foldChar, head inside] at blank
          exact absurd blank (by decide)
  · -- The word would have to end at the colon, but there its last letter is a digit.
    obtain ⟨letters, rfl, spelling'⟩ := spelled_error spelling
    have plain : ':' ∉ word := fun colon => ends.plain (by simp [front', colon])
    rw [List.append_assoc, List.singleton_append] at behind
    obtain rfl := eq_of_first_colon (no_colon_of_spelling spelling' (by decide)) plain behind
    have lastLetter : letters.getLast?.map foldChar = some 'r' := by
      rw [← List.getLast?_map, spelling']
      rfl
    obtain ⟨r, last, letter⟩ := Option.map_eq_some_iff.mp lastLetter
    obtain ⟨d, last', numeric⟩ := ends.last
    rw [front', List.getLast?_append, last, Option.some_or] at last'
    obtain rfl := Option.some.inj last'
    exact absurd letter (foldChar_ne_of_digit numeric)

/-- The message of an error with its line is shorter than that of a detail on the same line. -/
theorem length_lt_of_errorAtLine {line : Text} {told sighting : Sighting} (fills : FillsLine line)
    (detail : detail? line = some told) (found : errorAtLine? line = some sighting) :
    sighting.message.length < told.message.length := by
  obtain ⟨front, gap, same, ends, apart⟩ := detail?_eq_some fills detail
  obtain ⟨start, spelled, gap', rest, same', spelling, apart'⟩ := errorAtLine?_eq_some found
  have within := suffix_message_of_errorAtLine ends apart spelling (same.symm.trans same')
  have bound := within.length_le
  have some' : 0 < gap'.length := List.length_pos_iff.mpr apart'.nonempty
  simp only [List.length_append] at bound
  omega

section Lines

variable {line : Text}

theorem scanLine_of_short (short : ShortNumbers line) (detailed : Bool) :
    ∃ found, scanLine detailed line = .ok found := by
  rw [scanLine_eq]
  cases told : lineSighting? detailed line with
  | none => exact ⟨none, rfl⟩
  | some sighting =>
    have found := lineSighting?_from told
    rcases Sighting.problem_cases found.placed with ⟨_, problem, made⟩ | ⟨digits, hd, long, _⟩
    · exact ⟨some problem, map_eq_ok.mpr ⟨problem, made, rfl⟩⟩
    · exact absurd (found.fits short digits hd) (Nat.not_le.mpr long)

/-- A trimmed line that is no summary adds its problem in front of those of the lines behind it. -/
theorem scanLines_cons (fills : FillsLine line) (erring : hasZeroSummary line = false)
    (uncounted : summaryCount? line = none) {detailed : Bool} {found : Option Problem}
    (read : scanLine detailed line = .ok found) (lines : List Text) :
    scanLines detailed (line :: lines) = (found.toList ++ ·) <$> scanLines detailed lines := by
  have filled : line.isEmpty = false := by simpa using fills.nonempty
  simp only [scanLines, fills.trimmed, filled, erring, uncounted, read, Bool.or_false, Bool.false_eq_true, if_false]
  cases scanLines detailed lines <;> rfl

theorem lineSighting?_of_detail {told : Sighting} (detail : detail? line = some told) :
    lineSighting? true line = some told := by
  simp [lineSighting?, detail]

theorem lineSighting?_of_no_detail (silent : detail? line = none) :
    lineSighting? true line = lineSighting? false line := by
  simp [lineSighting?, silent]

theorem lineSighting?_of_errorAtLine {sighting : Sighting} (found : errorAtLine? line = some sighting) :
    lineSighting? false line = some sighting := by
  simp [lineSighting?, ReportShape.all, firstShape?, ReportShape.sighting?, found]

theorem lineSighting?_of_lineMessage {sighting : Sighting} (unplaced : errorAtLine? line = none)
    (found : lineMessage? line = some sighting) : lineSighting? false line = some sighting := by
  simp [lineSighting?, ReportShape.all, firstShape?, ReportShape.sighting?, unplaced, found]

/-- Of the shapes that name a problem on any line, only an error with its line tells of a column. -/
theorem ReportShape.column_of_sighting {shape : ReportShape} {sighting : Sighting} (other : shape ≠ .errorAtLine)
    (found : shape.sighting? line = some sighting) : sighting.column = none := by
  cases shape with
  | errorAtLine => exact absurd rfl other
  | lineMessage =>
    obtain ⟨_, _, _, rfl, _⟩ := lineMessage?_eq_some found
    rfl
  | countSummary =>
    obtain ⟨_, _, rfl⟩ := Option.map_eq_some_iff.mp found
    rfl
  | syntaxError =>
    obtain ⟨_, _, rfl, _⟩ := syntaxError?_eq_some found
    rfl
  | errorMessage =>
    obtain ⟨_, _, rfl, _⟩ := errorMessage?_eq_some found
    rfl

theorem column_of_firstShape {shapes : List ReportShape} {sighting : Sighting}
    (unplaced : errorAtLine? line = none) (found : firstShape? shapes line = some sighting) :
    sighting.column = none := by
  induction shapes with
  | nil => simp [firstShape?] at found
  | cons shape shapes ih =>
    rcases Option.or_eq_some_iff.mp found with here | ⟨_, later⟩
    · refine ReportShape.column_of_sighting ?_ here
      rintro rfl
      exact Option.some_ne_none _ (here.symm.trans unplaced)
    · exact ih later

theorem column_of_lineSighting {sighting : Sighting} (unplaced : errorAtLine? line = none)
    (found : lineSighting? false line = some sighting) : sighting.column = none := by
  rcases Option.or_eq_some_iff.mp found with detail | ⟨_, found⟩
  · simp at detail
  · rcases Option.or_eq_some_iff.mp found with shape | ⟨_, loose⟩
    · exact column_of_firstShape unplaced shape
    · unfold looseMention? at loose
      split at loose
      next =>
        obtain rfl := Option.some.inj loose
        rfl
      next => simp at loose

/-- Where a detail has a column, or an error with its line is told in it, another problem is read without a
summary before. -/
theorem problem_ne_of_detail {told : Sighting} {problem : Problem} {found : Option Problem} (fills : FillsLine line)
    (detail : detail? line = some told) (made : told.problem = .ok problem) (read : scanLine false line = .ok found)
    (apart : told.column.isSome = true ∨ (errorAtLine? line).isSome = true) : found ≠ some problem := by
  rintro rfl
  rw [scanLine_eq] at read
  have kept := Sighting.keeps_of_problem made
  cases seen : lineSighting? false line with
  | none =>
    rw [seen] at read
    exact Option.some_ne_none problem (Except.ok.inj read).symm
  | some sighting =>
    rw [seen] at read
    obtain ⟨_, made', same⟩ := map_eq_ok.mp (show some <$> sighting.problem = .ok (some problem) from read)
    obtain rfl := Option.some.inj same
    have kept' := Sighting.keeps_of_problem made'
    cases placed : errorAtLine? line with
    | some sighting' =>
      obtain rfl : sighting' = sighting := Option.some.inj ((lineSighting?_of_errorAtLine placed).symm.trans seen)
      have shorter := length_lt_of_errorAtLine fills detail placed
      rw [← kept.message, ← kept'.message] at shorter
      exact Nat.lt_irrefl _ shorter
    | none =>
      have noted : told.column.isSome = true := apart.resolve_right (by simp [placed])
      rw [← kept.column, kept'.column, column_of_lineSighting placed seen] at noted
      contradiction

/-- Where no detail says something else, a line is read alike, whether a summary came before or not. -/
theorem lineSighting?_of_plain (fills : FillsLine line)
    (plain : ∀ told, detail? line = some told → told.column = none ∧ errorAtLine? line = none) :
    lineSighting? true line = lineSighting? false line := by
  cases detail : detail? line with
  | none => exact lineSighting?_of_no_detail detail
  | some told =>
    obtain ⟨uncolumned, unplaced⟩ := plain told detail
    have message := lineMessage?_of_detail fills detail uncolumned
    exact (lineSighting?_of_detail detail).trans (lineSighting?_of_lineMessage unplaced message).symm

/-- What a summary changes: of the lines that are no summaries themselves, those are read differently behind one
that are details with a column, or details with an error in them that is told with its line. Any other line gives
behind a summary what the shapes of all lines make of it. -/
theorem summary_changes_reading_iff (fills : FillsLine line) (erring : hasZeroSummary line = false)
    (uncounted : summaryCount? line = none) (short : ShortNumbers line) :
    ∃ plain detailed : Option Problem,
      (∀ lines, scanLines false (line :: lines) = (plain.toList ++ ·) <$> scanLines false lines) ∧
      (∀ lines, scanLines true (line :: lines) = (detailed.toList ++ ·) <$> scanLines true lines) ∧
      lineProblem? line = .ok plain ∧
      (plain ≠ detailed ↔ ∃ told, detail? line = some told ∧
        (told.column.isSome = true ∨ (errorAtLine? line).isSome = true)) := by
  obtain ⟨plain, read⟩ := scanLine_of_short short false
  obtain ⟨detailed, read'⟩ := scanLine_of_short short true
  refine ⟨plain, detailed, scanLines_cons fills erring uncounted read, scanLines_cons fills erring uncounted read',
    read, ?_, ?_⟩
  · intro differ
    by_contra none'
    push Not at none'
    refine differ ?_
    have same := lineSighting?_of_plain fills fun told detail => by simpa using none' told detail
    rw [scanLine_eq] at read read'
    rw [same, read] at read'
    exact Except.ok.inj read'
  · rintro ⟨told, detail, apart⟩
    rw [scanLine_eq, lineSighting?_of_detail detail] at read'
    obtain ⟨problem, made, rfl⟩ := map_eq_ok.mp (show some <$> told.problem = .ok detailed from read')
    exact problem_ne_of_detail fills detail made read apart

end Lines

/-- A detail with an error in it and one with a column are read differently behind a summary, but a detail of a
line alone is not. -/
theorem summary_changes_two_details :
    (∃ plain detailed, lineProblem? "Line 7: Error: bad at line 3" = .ok plain ∧
      scanLines true ["Line 7: Error: bad at line 3"] = .ok (Option.toList detailed) ∧ plain ≠ detailed) ∧
    (∃ plain detailed, lineProblem? "Line 7, Col 2: boom" = .ok plain ∧
      scanLines true ["Line 7, Col 2: boom"] = .ok (Option.toList detailed) ∧ plain ≠ detailed) ∧
    ∃ found, lineProblem? "Line 7: boom" = .ok found ∧ scanLines true ["Line 7: boom"] = .ok found.toList := by
  refine ⟨?_, ?_, ?_⟩
  · obtain ⟨plain, detailed, _, behind, read, changed⟩ := summary_changes_reading_iff
      (by decide : FillsLine "Line 7: Error: bad at line 3") (by decide) (by decide) (.of_length (by decide))
    exact ⟨plain, detailed, read, (behind []).trans (congrArg Except.ok (List.append_nil _)),
      changed.mpr ⟨_, rfl, .inr (by decide)⟩⟩
  · obtain ⟨plain, detailed, _, behind, read, changed⟩ := summary_changes_reading_iff
      (by decide : FillsLine "Line 7, Col 2: boom") (by decide) (by decide) (.of_length (by decide))
    exact ⟨plain, detailed, read, (behind []).trans (congrArg Except.ok (List.append_nil _)),
      changed.mpr ⟨_, rfl, .inl (by decide)⟩⟩
  · obtain ⟨plain, detailed, _, behind, read, changed⟩ := summary_changes_reading_iff
      (by decide : FillsLine "Line 7: boom") (by decide) (by decide) (.of_length (by decide))
    have same : plain = detailed := by
      by_contra differ
      obtain ⟨told, detail, apart⟩ := changed.mp differ
      obtain rfl : ⟨"boom", some ['7'], none⟩ = told := Option.some.inj detail
      exact absurd apart (by decide)
    exact ⟨detailed, same ▸ read, (behind []).trans (congrArg Except.ok (List.append_nil _))⟩

end BasicWorkbench
