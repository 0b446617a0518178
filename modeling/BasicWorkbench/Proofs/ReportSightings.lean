import BasicWorkbench.ReportScan
import BasicWorkbench.Proofs.TextMatches

namespace BasicWorkbench

def Sighting.numbers (s : Sighting) : List Text := s.line.toList ++ s.column.toList

theorem Sighting.problem_of_line (message line : Text) :
    Sighting.problem ⟨message, some line, none⟩ =
      (fun n => ⟨message, some ⟨n, none⟩⟩) <$> readNumber line := by
  have first : (some line).mapM readNumber = some <$> readNumber line := rfl
  rw [problem, first]
  cases readNumber line <;> rfl

theorem Sighting.problem_of_column (message line column : Text) :
    Sighting.problem ⟨message, some line, some column⟩ = (do
      let n ← readNumber line
      let k ← readNumber column
      Except.ok ⟨message, some ⟨n, some k⟩⟩) := by
  have first : (some line).mapM readNumber = some <$> readNumber line := rfl
  have second : (some column).mapM readNumber = some <$> readNumber column := rfl
  rw [problem, first, second]
  cases readNumber line with
  | error f => rfl
  | ok n => cases readNumber column <;> rfl

def startsDetails (raw : Text) : Bool :=
  let line := trim raw
  !(line.isEmpty || hasZeroSummary line) && (summaryCount? line).isSome

def lineSighting? (detailed : Bool) (line : Text) : Option Sighting :=
  (if detailed then detail? line else none).or ((firstShape? ReportShape.all line).or (looseMention? line))

def sightingOn? (detailed : Bool) (raw : Text) : Option Sighting :=
  let line := trim raw
  if line.isEmpty || hasZeroSummary line then none
  else
    match summaryCount? line with
    | some count => some ⟨(summaryProblem count).message, none, none⟩
    | none => lineSighting? detailed line

def sightingsOn (detailed : Bool) : List Text → List Sighting
  | [] => []
  | raw :: lines => (sightingOn? detailed raw).toList ++ sightingsOn (detailed || startsDetails raw) lines

def reportSightings (output : Text) : List Sighting := sightingsOn false (outputLines output)

theorem scanLine_eq (detailed : Bool) (line : Text) :
    scanLine detailed line = (lineSighting? detailed line).mapM Sighting.problem := by
  unfold scanLine lineSighting? lineProblem?
  cases (if detailed then detail? line else none) with
  | none => rfl
  | some sighting => rfl

theorem mapM_problem_append (found : Option Sighting) (more : List Sighting) :
    (found.toList ++ more).mapM Sighting.problem = (do
      let first ← found.mapM Sighting.problem
      let rest ← more.mapM Sighting.problem
      Except.ok (first.toList ++ rest)) := by
  cases found with
  | none =>
    change more.mapM Sighting.problem = more.mapM Sighting.problem >>= Except.ok
    cases more.mapM Sighting.problem <;> rfl
  | some sighting =>
    have first : (some sighting).mapM Sighting.problem = some <$> sighting.problem := rfl
    rw [Option.toList_some, List.singleton_append, List.mapM_cons, first]
    cases sighting.problem <;> rfl

/-- The scanner makes its problems of what the lines tell, one after the other. -/
theorem scanLines_eq (detailed : Bool) (lines : List Text) :
    scanLines detailed lines = (sightingsOn detailed lines).mapM Sighting.problem := by
  induction lines generalizing detailed with
  | nil => rfl
  | cons raw lines ih =>
    rw [sightingsOn, mapM_problem_append, ← ih]
    cases skipped : (trim raw).isEmpty || hasZeroSummary (trim raw) with
    | true =>
      simp only [scanLines, sightingOn?, startsDetails, skipped, Bool.not_true, Bool.false_and,
        Bool.or_false, if_true]
      cases scanLines detailed lines <;> rfl
    | false =>
      cases counted : summaryCount? (trim raw) with
      | some count =>
        simp only [scanLines, sightingOn?, startsDetails, skipped, counted, Bool.false_eq_true, if_false,
          Bool.not_false, Bool.true_and, Option.isSome_some, Bool.or_true]
        cases scanLines true lines <;> rfl
      | none => simp [scanLines, sightingOn?, startsDetails, skipped, counted, scanLine_eq]

theorem suffix_of_dropWord {w s r : Text} (h : dropWord? w s = some r) : r <:+ s := by
  obtain ⟨v, rfl, _⟩ := dropWord?_eq_some_iff.mp h
  exact List.suffix_append v r

theorem suffix_of_dropBlanks {s r : Text} (h : dropBlanks? s = some r) : r <:+ s := by
  obtain ⟨blanks, _, _, rfl, _⟩ := dropBlanks?_eq_some_iff.mp h
  exact List.suffix_append blanks r

theorem suffix_of_blanksAndWord {w s r : Text} (h : blanksAndWord? w s = some r) : r <:+ s := by
  obtain ⟨t, blanks, word⟩ := Option.bind_eq_some_iff.mp h
  exact (suffix_of_dropWord word).trans (suffix_of_dropBlanks blanks)

theorem suffix_of_mem_restsAfter {p : Char → Bool} {s r : Text} (h : r ∈ restsAfter p s) : r <:+ s := by
  obtain ⟨t, _, rfl, _⟩ := mem_restsAfter.mp h
  exact List.suffix_append t r

theorem suffix_of_dropOptional (c : Char) (s : Text) : dropOptional c s <:+ s := by
  unfold dropOptional
  split
  · exact List.suffix_rfl
  · split
    · exact List.suffix_cons _ _
    · exact List.suffix_rfl

/-- What is found leftmost is found at the start of a rest of the text. -/
theorem exists_suffix_of_leftmost {α : Type} {f : Text → Option α} {s : Text} {a : α}
    (h : leftmost f s = some a) : ∃ t, t <:+ s ∧ f t = some a := by
  induction s with
  | nil => exact ⟨[], List.suffix_rfl, h⟩
  | cons c s ih =>
    unfold leftmost at h
    split at h
    next b found =>
      obtain rfl := Option.some.inj h
      exact ⟨c :: s, List.suffix_rfl, found⟩
    next =>
      obtain ⟨t, within, found⟩ := ih h
      exact ⟨t, within.trans (List.suffix_cons c s), found⟩

/-- A number that stands in the text: digits of any script, one after the other. -/
def NumberIn (s digits : Text) : Prop := digits <:+: s ∧ ∀ c ∈ digits, isDigit c = true

theorem NumberIn.mono {s t digits : Text} (within : s <:+: t) (number : NumberIn s digits) :
    NumberIn t digits :=
  ⟨number.1.trans within, number.2⟩

theorem takeDigits?_spec {s digits r : Text} (h : takeDigits? s = some (digits, r)) :
    NumberIn s digits ∧ r <:+ s := by
  unfold takeDigits? at h
  split at h
  next => simp at h
  next =>
    obtain ⟨rfl, rfl⟩ := Prod.mk.inj (Option.some.inj h)
    refine ⟨⟨(List.takeWhile_prefix _).isInfix, fun c hc => ?_⟩, List.dropWhile_suffix _⟩
    exact List.mem_takeWhile_imp hc

theorem blanksAndDigits?_spec {s digits r : Text} (h : blanksAndDigits? s = some (digits, r)) :
    NumberIn s digits ∧ r <:+ s := by
  obtain ⟨t, blanks, taken⟩ := Option.bind_eq_some_iff.mp h
  have within := suffix_of_dropBlanks blanks
  obtain ⟨number, rest⟩ := takeDigits?_spec taken
  exact ⟨number.mono within.isInfix, rest.trans within⟩

theorem atLine?_spec {s digits r : Text} (h : atLine? s = some (digits, r)) :
    NumberIn s digits ∧ r <:+ s := by
  obtain ⟨t, at', h⟩ := Option.bind_eq_some_iff.mp h
  obtain ⟨u, line, h⟩ := Option.bind_eq_some_iff.mp h
  have within := (suffix_of_blanksAndWord line).trans (suffix_of_blanksAndWord at')
  obtain ⟨number, rest⟩ := blanksAndDigits?_spec h
  exact ⟨number.mono within.isInfix, rest.trans within⟩

theorem columnNote?_spec {s digits : Text} (h : columnNote? s = some digits) : NumberIn s digits := by
  obtain ⟨t, word, h⟩ := Option.bind_eq_some_iff.mp h
  obtain ⟨⟨number, r⟩, read, h⟩ := Option.bind_eq_some_iff.mp h
  obtain rfl := Option.some.inj h
  have trimmed : trimStart (dropOptional ',' s) <:+ dropOptional ',' s := List.dropWhile_suffix _
  have within := (suffix_of_dropWord word).trans (trimmed.trans (suffix_of_dropOptional ',' s))
  exact (blanksAndDigits?_spec read).1.mono within.isInfix

/-- The numbers of a sighting stand in the text, and there is no column without a line. -/
structure Sighting.From (s : Text) (sighting : Sighting) : Prop where
  numbers : ∀ digits ∈ sighting.numbers, NumberIn s digits
  placed : sighting.line = none → sighting.column = none

theorem Sighting.From.mono {s t : Text} {sighting : Sighting} (within : s <:+: t)
    (found : sighting.From s) : sighting.From t :=
  ⟨fun digits hd => (found.numbers digits hd).mono within, found.placed⟩

/-- A message without numbers may come from anywhere. -/
theorem Sighting.From.unplaced (s message : Text) : Sighting.From s ⟨message, none, none⟩ :=
  ⟨by simp [Sighting.numbers], fun _ => rfl⟩

theorem errorAtLine?_from {s : Text} {sighting : Sighting} (h : errorAtLine? s = some sighting) :
    sighting.From s := by
  obtain ⟨t, start, h⟩ := exists_suffix_of_leftmost h
  obtain ⟨u, word, h⟩ := Option.bind_eq_some_iff.mp h
  obtain ⟨told, ht, h⟩ := List.exists_of_findSome?_eq_some h
  obtain ⟨rest, hr, h⟩ := List.exists_of_findSome?_eq_some h
  obtain ⟨⟨line, after⟩, placed, h⟩ := Option.bind_eq_some_iff.mp h
  obtain rfl := Option.some.inj h
  have skipped := suffix_of_mem_restsAfter (List.mem_reverse.mp ht)
  have within := ((suffix_of_mem_restsAfter hr).trans skipped).trans ((suffix_of_dropWord word).trans start)
  obtain ⟨number, tail⟩ := atLine?_spec placed
  refine ⟨?_, by simp⟩
  intro digits hd
  rcases List.mem_append.mp hd with here | column
  · obtain rfl : digits = line := by simpa using here
    exact number.mono within.isInfix
  · exact (columnNote?_spec (by simpa using column)).mono (tail.trans within).isInfix

theorem lineMessage?_eq_some {s : Text} {sighting : Sighting} (h : lineMessage? s = some sighting) :
    ∃ digits rest message, sighting = ⟨message, some digits, none⟩ ∧ NumberIn s digits ∧ rest <:+ s ∧
      openMessage? rest = some message := by
  obtain ⟨t, start, h⟩ := exists_suffix_of_leftmost h
  obtain ⟨u, word, h⟩ := Option.bind_eq_some_iff.mp h
  obtain ⟨⟨digits, v⟩, placed, h⟩ := Option.bind_eq_some_iff.mp h
  obtain ⟨rest, colon, h⟩ := Option.bind_eq_some_iff.mp h
  obtain ⟨message, read, h⟩ := Option.bind_eq_some_iff.mp h
  obtain rfl := Option.some.inj h
  have within := (suffix_of_dropWord word).trans start
  obtain ⟨number, behind⟩ := blanksAndDigits?_spec placed
  exact ⟨digits, rest, message, rfl, number.mono within.isInfix,
    (suffix_of_dropWord colon).trans (behind.trans within), read⟩

theorem lineMessage?_from {s : Text} {sighting : Sighting} (h : lineMessage? s = some sighting) :
    sighting.From s := by
  obtain ⟨line, _, message, rfl, number, _⟩ := lineMessage?_eq_some h
  refine ⟨?_, by simp⟩
  intro digits hd
  obtain rfl : digits = line := by simpa [Sighting.numbers] using hd
  exact number

theorem countSummary?_from {s : Text} {sighting : Sighting} (h : countSummary? s = some sighting) :
    sighting.From s := by
  obtain ⟨count, _, rfl⟩ := Option.map_eq_some_iff.mp h
  exact .unplaced _ _

/-- A syntax error tells its line if there is one, and the message behind it or none in particular. -/
theorem syntaxError?_eq_some {s : Text} {sighting : Sighting} (h : syntaxError? s = some sighting) :
    ∃ line rest, sighting =
        ⟨"Syntax error: " ++ (openMessage? (dropOptional ':' rest)).getD "Invalid syntax", line, none⟩ ∧
      (∀ digits ∈ line, NumberIn s digits) ∧ rest <:+ s := by
  obtain ⟨t, start, h⟩ := exists_suffix_of_leftmost h
  obtain ⟨u, syn, h⟩ := Option.bind_eq_some_iff.mp h
  obtain ⟨v, word, h⟩ := Option.bind_eq_some_iff.mp h
  obtain rfl := Option.some.inj h
  have within := ((suffix_of_blanksAndWord word).trans (suffix_of_dropWord syn)).trans start
  cases placed : atLine? v with
  | none => exact ⟨none, v, rfl, by simp, within⟩
  | some found =>
    obtain ⟨number, behind⟩ := atLine?_spec placed
    exact ⟨some found.1, found.2, rfl, by simpa using number.mono within.isInfix, behind.trans within⟩

theorem syntaxError?_from {s : Text} {sighting : Sighting} (h : syntaxError? s = some sighting) :
    sighting.From s := by
  obtain ⟨line, _, rfl, numbers, _⟩ := syntaxError?_eq_some h
  refine ⟨fun digits hd => numbers digits ?_, by simp⟩
  simpa [Sighting.numbers] using hd

theorem errorMessage?_eq_some {s : Text} {sighting : Sighting} (h : errorMessage? s = some sighting) :
    ∃ rest message, sighting = ⟨message, none, none⟩ ∧ rest <:+ s ∧ openMessage? rest = some message := by
  obtain ⟨t, start, h⟩ := exists_suffix_of_leftmost h
  obtain ⟨rest, word, h⟩ := Option.bind_eq_some_iff.mp h
  obtain ⟨message, read, h⟩ := Option.bind_eq_some_iff.mp h
  exact ⟨rest, message, (Option.some.inj h).symm, (suffix_of_dropWord word).trans start, read⟩

theorem errorMessage?_from {s : Text} {sighting : Sighting} (h : errorMessage? s = some sighting) :
    sighting.From s := by
  obtain ⟨_, message, rfl, _⟩ := errorMessage?_eq_some h
  exact .unplaced _ _

theorem ReportShape.from_of_sighting {shape : ReportShape} {s : Text} {sighting : Sighting}
    (h : shape.sighting? s = some sighting) : sighting.From s := by
  cases shape with
  | errorAtLine => exact errorAtLine?_from h
  | lineMessage => exact lineMessage?_from h
  | countSummary => exact countSummary?_from h
  | syntaxError => exact syntaxError?_from h
  | errorMessage => exact errorMessage?_from h

theorem firstShape?_from {shapes : List ReportShape} {s : Text} {sighting : Sighting}
    (h : firstShape? shapes s = some sighting) : sighting.From s := by
  induction shapes with
  | nil => simp [firstShape?] at h
  | cons shape shapes ih =>
    rcases Option.or_eq_some_iff.mp h with here | ⟨_, later⟩
    · exact ReportShape.from_of_sighting here
    · exact ih later

theorem looseMention?_from {s : Text} {sighting : Sighting} (h : looseMention? s = some sighting) :
    sighting.From s := by
  unfold looseMention? at h
  split at h
  next =>
    obtain rfl := Option.some.inj h
    exact .unplaced _ _
  next => simp at h

def colNote? (s : Text) : Option (Text × Text) := do
  let s ← dropWord? "," s
  let s ← dropWord? "col" (trimStart s)
  blanksAndDigits? s

def colPart (s : Text) : Option Text × Text :=
  match colNote? s with
  | some (column, rest) => (some column, rest)
  | none => (none, s)

theorem detail?_eq (s : Text) :
    detail? s = (do
      let s ← dropWord? "line" s
      let (line, s) ← blanksAndDigits? s
      let rest ← dropWord? ":" (colPart s).2
      let message ← messageAfterBlanks? atEnd rest
      some ⟨message, some line, (colPart s).1⟩) := by
  rfl

theorem colNote?_spec {s digits r : Text} (h : colNote? s = some (digits, r)) :
    NumberIn s digits ∧ r <:+ s := by
  obtain ⟨t, comma, h⟩ := Option.bind_eq_some_iff.mp h
  obtain ⟨u, word, h⟩ := Option.bind_eq_some_iff.mp h
  have trimmed : trimStart t <:+ t := List.dropWhile_suffix _
  have within := (suffix_of_dropWord word).trans (trimmed.trans (suffix_of_dropWord comma))
  obtain ⟨number, rest⟩ := blanksAndDigits?_spec h
  exact ⟨number.mono within.isInfix, rest.trans within⟩

theorem colPart_spec (s : Text) : (∀ digits ∈ (colPart s).1, NumberIn s digits) ∧ (colPart s).2 <:+ s := by
  unfold colPart
  cases noted : colNote? s with
  | none => exact ⟨by simp, List.suffix_rfl⟩
  | some found =>
    obtain ⟨number, behind⟩ := colNote?_spec noted
    exact ⟨by simpa using number, behind⟩

theorem detail?_spec {s : Text} {sighting : Sighting} (h : detail? s = some sighting) :
    ∃ line column rest message, sighting = ⟨message, some line, column⟩ ∧ NumberIn s line ∧
      (∀ digits ∈ column, NumberIn s digits) ∧ rest <:+ s ∧ messageAfterBlanks? atEnd rest = some message := by
  rw [detail?_eq] at h
  obtain ⟨t, word, h⟩ := Option.bind_eq_some_iff.mp h
  obtain ⟨⟨line, u⟩, placed, h⟩ := Option.bind_eq_some_iff.mp h
  obtain ⟨rest, colon, h⟩ := Option.bind_eq_some_iff.mp h
  obtain ⟨message, read, h⟩ := Option.bind_eq_some_iff.mp h
  have start := suffix_of_dropWord word
  obtain ⟨number, behind⟩ := blanksAndDigits?_spec placed
  obtain ⟨numbers, behind'⟩ := colPart_spec u
  have within := behind.trans start
  exact ⟨line, (colPart u).1, rest, message, (Option.some.inj h).symm, number.mono start.isInfix,
    fun digits hd => (numbers digits hd).mono within.isInfix,
    (suffix_of_dropWord colon).trans (behind'.trans within), read⟩

theorem detail?_from {s : Text} {sighting : Sighting} (h : detail? s = some sighting) :
    sighting.From s := by
  obtain ⟨line, column, _, message, rfl, number, numbers, _⟩ := detail?_spec h
  refine ⟨?_, by simp⟩
  intro digits hd
  rcases List.mem_append.mp hd with here | there
  · obtain rfl : digits = line := by simpa using here
    exact number
  · exact numbers digits (Option.mem_toList.mp there)

theorem lineSighting?_from {detailed : Bool} {s : Text} {sighting : Sighting}
    (h : lineSighting? detailed s = some sighting) : sighting.From s := by
  rcases Option.or_eq_some_iff.mp h with detail | ⟨_, h⟩
  · cases detailed with
    | true => exact detail?_from detail
    | false => simp at detail
  · rcases Option.or_eq_some_iff.mp h with shape | ⟨_, loose⟩
    · exact firstShape?_from shape
    · exact looseMention?_from loose

theorem prefix_of_trim (s : Text) : trim s <+: trimStart s := by
  have cut : (trimStart s).reverse.dropWhile isBlank <:+ (trimStart s).reverse := List.dropWhile_suffix _
  simpa [trim, trimEnd] using List.reverse_prefix.mpr cut

theorem infix_of_trim (s : Text) : trim s <:+: s := by
  have start : trimStart s <:+ s := List.dropWhile_suffix _
  exact (prefix_of_trim s).isInfix.trans start.isInfix

theorem sightingOn?_from {detailed : Bool} {raw : Text} {sighting : Sighting}
    (h : sightingOn? detailed raw = some sighting) : sighting.From raw := by
  simp only [sightingOn?] at h
  split at h
  next => simp at h
  next =>
    split at h
    next =>
      obtain rfl := Option.some.inj h
      exact .unplaced _ _
    next => exact (lineSighting?_from h).mono (infix_of_trim raw)

theorem sightingsOn_from {detailed : Bool} {lines : List Text} {sighting : Sighting}
    (h : sighting ∈ sightingsOn detailed lines) : ∃ raw ∈ lines, sighting.From raw := by
  induction lines generalizing detailed with
  | nil => simp [sightingsOn] at h
  | cons raw lines ih =>
    rcases List.mem_append.mp h with here | later
    · exact ⟨raw, List.mem_cons_self, sightingOn?_from (Option.mem_toList.mp here)⟩
    · obtain ⟨line, hl, found⟩ := ih later
      exact ⟨line, List.mem_cons_of_mem raw hl, found⟩

theorem infix_of_outputLines (s : Text) :
    (∀ line, (outputLines s).head? = some line → line <+: s) ∧ ∀ line ∈ outputLines s, line <:+: s := by
  fun_induction outputLines s with
  | case1 => simp
  | case2 s ih =>
    refine ⟨by simp, fun line hl => ?_⟩
    rcases List.mem_cons.mp hl with rfl | hl
    · exact List.nil_infix
    · exact (ih.2 line hl).trans (List.suffix_append ['\r', '\n'] s).isInfix
  | case3 c s _ _ ih =>
    refine ⟨by simp, fun line hl => ?_⟩
    rcases List.mem_cons.mp hl with rfl | hl
    · exact List.nil_infix
    · exact (ih.2 line hl).trans (List.suffix_cons c s).isInfix
  | case4 c s _ _ ih =>
    -- The first line grows at its start, so that it has to be followed as a prefix.
    cases lines : outputLines s with
    | nil =>
      have single : [c] <+: c :: s := List.prefix_append [c] s
      simpa [consHead] using single.isInfix
    | cons first lines' =>
      rw [lines] at ih
      have grown : c :: first <+: c :: s := List.cons_prefix_cons.mpr ⟨rfl, ih.1 first rfl⟩
      refine ⟨fun line hl => ?_, fun line hl => ?_⟩
      · obtain rfl : c :: first = line := Option.some.inj hl
        exact grown
      · rcases List.mem_cons.mp hl with rfl | hl
        · exact grown.isInfix
        · exact (ih.2 line (List.mem_cons_of_mem first hl)).trans (List.suffix_cons c s).isInfix

theorem reportSightings_from {output : Text} {sighting : Sighting}
    (h : sighting ∈ reportSightings output) : sighting.From output := by
  obtain ⟨raw, hr, found⟩ := sightingsOn_from h
  exact found.mono ((infix_of_outputLines output).2 raw hr)

end BasicWorkbench
