import Mathlib.Data.List.Infix
import BasicWorkbench.Proofs.WrittenReports

namespace BasicWorkbench

/-- A run of one or more blanks. -/
structure IsGap (gap : Text) : Prop where
  nonempty : gap ≠ []
  blank : ∀ c ∈ gap, isBlank c = true

/-- Blanks, "at", blanks, "line", blanks and a digit, the words in letters of any case. -/
inductive IsLineMention : Text → Prop
  | intro {gap spelled gap' spelled' gap'' : Text} {digit : Char} (apart : IsGap gap)
      (preposition : spelled.map foldChar = "at".toList) (apart' : IsGap gap')
      (noun : spelled'.map foldChar = "line".toList) (apart'' : IsGap gap'') (numeric : isDigit digit = true) :
      IsLineMention (gap ++ (spelled ++ (gap' ++ (spelled' ++ (gap'' ++ [digit])))))

/-- The text mentions a line somewhere. -/
def MentionsLine (s : Text) : Prop := ∃ run, run <:+: s ∧ IsLineMention run

theorem not_blank_of_digit {c : Char} (digit : isDigit c = true) : isBlank c = false := by
  by_cases ascii : c.toNat < 128
  · exact forall_ascii (p := fun c => isDigit c = true → isBlank c = false) (by decide) ascii digit
  · have solid : ∀ first ∈ digitZeros, ∀ i < 10, isBlank (Char.ofNat (first + i)) = false := by decide +kernel
    rw [isDigit, digitValue?, if_neg ascii, Option.isSome_map, List.find?_isSome] at digit
    obtain ⟨first, known, within⟩ := digit
    have bounds : first ≤ c.toNat ∧ c.toNat ≤ first + 9 := by simpa using within
    have here := solid first known (c.toNat - first) (by omega)
    rwa [Nat.add_sub_cancel' bounds.1, Char.ofNat_toNat] at here

theorem takeDigits?_isSome_iff {s : Text} :
    (takeDigits? s).isSome = true ↔ ∃ digit rest, s = digit :: rest ∧ isDigit digit = true := by
  rw [← Option.ne_none_iff_isSome, Ne, takeDigits?_eq_none_iff]
  cases s with
  | nil => simp
  | cons c s => simp [List.takeWhile_cons]

theorem blanksAndDigits?_isSome_iff {s : Text} :
    (blanksAndDigits? s).isSome = true ↔
      ∃ gap digit rest, s = gap ++ digit :: rest ∧ IsGap gap ∧ isDigit digit = true := by
  constructor
  · intro read
    obtain ⟨found, read⟩ := Option.isSome_iff_exists.mp read
    obtain ⟨r, skipped, taken⟩ := Option.bind_eq_some_iff.mp read
    obtain ⟨gap, nonempty, blank, rfl, _⟩ := dropBlanks?_eq_some_iff.mp skipped
    obtain ⟨digit, rest, rfl, numeric⟩ := takeDigits?_isSome_iff.mp (Option.isSome_of_mem taken)
    exact ⟨gap, digit, rest, rfl, ⟨nonempty, blank⟩, numeric⟩
  · rintro ⟨gap, digit, rest, rfl, apart, numeric⟩
    have start := trimStart_of_not_blank (not_blank_of_digit numeric) rest
    have skipped := dropBlanks?_eq_some_iff.mpr ⟨gap, apart.nonempty, apart.blank, rfl, start⟩
    rw [blanksAndDigits?, skipped, Option.bind_some]
    exact takeDigits?_isSome_iff.mpr ⟨digit, rest, rfl, numeric⟩

theorem atLine?_isSome_iff {s : Text} : (atLine? s).isSome = true ↔ ∃ run, run <+: s ∧ IsLineMention run := by
  have solid : ("at".toList.all (!isBlank ·) = true) ∧ "line".toList.all (!isBlank ·) = true := by decide
  constructor
  · intro read
    obtain ⟨found, read⟩ := Option.isSome_iff_exists.mp read
    obtain ⟨t, word, read⟩ := Option.bind_eq_some_iff.mp read
    obtain ⟨u, word', read⟩ := Option.bind_eq_some_iff.mp read
    have digits : (blanksAndDigits? u).isSome = true := Option.isSome_of_mem read
    obtain ⟨gap, spelled, rfl, nonempty, blank, same⟩ := (blanksAndWord?_eq_some_iff (by decide) solid.1).mp word
    obtain ⟨gap', spelled', rfl, nonempty', blank', same'⟩ :=
      (blanksAndWord?_eq_some_iff (by decide) solid.2).mp word'
    obtain ⟨gap'', digit, rest, rfl, apart'', numeric⟩ := blanksAndDigits?_isSome_iff.mp digits
    exact ⟨gap ++ (spelled ++ (gap' ++ (spelled' ++ (gap'' ++ [digit])))), ⟨rest, by simp⟩,
      .intro ⟨nonempty, blank⟩ same ⟨nonempty', blank'⟩ same' apart'' numeric⟩
  · rintro ⟨_, ⟨rest, rfl⟩, mention⟩
    obtain @⟨gap, spelled, gap', spelled', gap'', digit, apart, same, apart', same', apart'', numeric⟩ := mention
    have word : blanksAndWord? "at" (gap ++ (spelled ++ (gap' ++ (spelled' ++ (gap'' ++ digit :: rest))))) =
        some (gap' ++ (spelled' ++ (gap'' ++ digit :: rest))) :=
      (blanksAndWord?_eq_some_iff (by decide) solid.1).mpr ⟨gap, spelled, rfl, apart.nonempty, apart.blank, same⟩
    have word' : blanksAndWord? "line" (gap' ++ (spelled' ++ (gap'' ++ digit :: rest))) =
        some (gap'' ++ digit :: rest) :=
      (blanksAndWord?_eq_some_iff (by decide) solid.2).mpr
        ⟨gap', spelled', rfl, apart'.nonempty, apart'.blank, same'⟩
    have digits := blanksAndDigits?_isSome_iff.mpr ⟨gap'', digit, rest, rfl, apart'', numeric⟩
    simp only [List.append_assoc, List.singleton_append, atLine?, Option.bind_eq_bind, word, word',
      Option.bind_some]
    exact digits

theorem mentionsLine_iff {s : Text} : MentionsLine s ↔ ∃ t ∈ s.tails, (atLine? t).isSome = true := by
  simp only [List.mem_tails, atLine?_isSome_iff]
  constructor
  · rintro ⟨run, ⟨front, rest, rfl⟩, mention⟩
    exact ⟨run ++ rest, ⟨front, by simp⟩, run, List.prefix_append run rest, mention⟩
  · rintro ⟨t, within, run, start, mention⟩
    exact ⟨run, start.isInfix.trans within.isInfix, mention⟩

instance (s : Text) : Decidable (MentionsLine s) := decidable_of_iff _ mentionsLine_iff.symm

theorem takeDigits?_append_other {b : Char} (other : isDigit b = false) (t s : Text) :
    takeDigits? (s ++ b :: t) = (takeDigits? s).map fun found => (found.1, found.2 ++ b :: t) := by
  have cut : (s ++ b :: t).takeWhile isDigit = s.takeWhile isDigit ∧
      (s ++ b :: t).dropWhile isDigit = s.dropWhile isDigit ++ b :: t := by
    induction s with
    | nil => simp [other]
    | cons c s ih => cases numeric : isDigit c <;> simp [numeric, ih]
  unfold takeDigits?
  rw [cut.1, cut.2]
  cases s.takeWhile isDigit with
  | nil => rfl
  | cons d digits => rfl

theorem blanksAndDigits?_append_blank {t : Text} {b : Char} (blank : isBlank b = true)
    (other : takeDigits? (trimStart (b :: t)) = none) (s : Text) :
    blanksAndDigits? (s ++ b :: t) = (blanksAndDigits? s).map fun found => (found.1, found.2 ++ b :: t) := by
  have noDigit : isDigit b = false := by
    rw [← Bool.not_eq_true]
    intro numeric
    simp [not_blank_of_digit numeric] at blank
  exact dropBlanks?_bind_append blank other rfl (takeDigits?_append_other noDigit t) s

/-- No mention of a line runs from a text with no blank at its end into what follows, not even where that is
another mention. -/
theorem atLine?_append {s : Text} (start : trimStart s ≠ []) (t : Text) :
    atLine? (s ++ ' ' :: 'a' :: t) = (atLine? s).map fun found => (found.1, found.2 ++ ' ' :: 'a' :: t) := by
  have blank : isBlank ' ' = true := by decide
  have word : blanksAndWord? "at" (s ++ ' ' :: 'a' :: t) =
      (blanksAndWord? "at" s).map (· ++ ' ' :: 'a' :: t) := by
    unfold blanksAndWord?
    rw [dropBlanks?_append start]
    cases dropBlanks? s with
    | none => rfl
    | some r => exact dropWord?_append_blank (by decide) blank r
  have word' := blanksAndWord?_append_blank (w := "line") (t := 'a' :: t) (by decide) (by decide) blank rfl
  unfold atLine?
  rw [word]
  cases blanksAndWord? "at" s with
  | none => rfl
  | some r =>
    change (blanksAndWord? "line" (r ++ ' ' :: 'a' :: t)).bind blanksAndDigits? =
      ((blanksAndWord? "line" r).bind blanksAndDigits?).map _
    rw [word']
    cases blanksAndWord? "line" r with
    | none => rfl
    | some r => exact blanksAndDigits?_append_blank blank rfl r

theorem trimStart_ne_nil_of_suffix {s t : Text} (trimmed : trim s = s) (nonempty : t ≠ []) (within : t <:+ s) :
    trimStart t ≠ [] := by
  intro start
  obtain ⟨front, rfl⟩ := within
  have all : ∀ c ∈ t, isBlank c = true := List.dropWhile_eq_nil_iff.mp start
  have last := List.getLast?_eq_some_getLast nonempty
  have solid := (trim_eq_self_iff.mp trimmed).2 (t.getLast nonempty) (by rw [List.getLast?_append, last]; rfl)
  simp [all _ (List.getLast_mem nonempty)] at solid

/-- Of the rests of a text, what is looked for is found at the end of a front in which it is not. -/
theorem findSome?_restsAfter_append {α : Type} {p : Char → Bool} {f : Text → Option α} {front rest : Text} {a : α}
    (nonempty : front ≠ []) (inside : ∀ c ∈ front, p c = true)
    (unseen : ∀ t, t ≠ [] → t <:+ front → f (t ++ rest) = none) (found : f rest = some a) :
    (restsAfter p (front ++ rest)).findSome? f = some a := by
  induction front with
  | nil => exact absurd rfl nonempty
  | cons c front ih =>
    rw [List.cons_append, restsAfter, if_pos (inside c List.mem_cons_self), List.findSome?_cons]
    cases front with
    | nil => rw [List.nil_append, found]
    | cons d front =>
      rw [unseen (d :: front) (by simp) (List.suffix_cons c _)]
      exact ih (by simp) (fun e he => inside e (List.mem_cons_of_mem c he))
        fun t filled within => unseen t filled (within.trans (List.suffix_cons c _))

theorem leftmost_of_here {α : Type} {f : Text → Option α} {s : Text} {a : α} (here : f s = some a) :
    leftmost f s = some a := by
  cases s with
  | nil => exact here
  | cons c s => simp [leftmost, here]

section Shapes

variable {message digits : Text} (told : IsMessage message) (nonempty : digits ≠ [])
  (all : ∀ d ∈ digits, d.isDigit = true)

include nonempty all

theorem atLine?_written {after : Text} (stops : takeDigits? after = none) :
    atLine? (" at line " ++ (digits ++ after)) = some (digits, after) :=
  blanksAndDigits?_append nonempty all stops

theorem columnNote?_written : columnNote? (", column " ++ digits) = some digits := by
  have read : blanksAndDigits? (' ' :: (digits ++ [])) = some (digits, []) :=
    blanksAndDigits?_append nonempty all rfl
  rw [List.append_nil] at read
  have word : dropWord? "column" (trimStart (dropOptional ',' (", column " ++ digits))) = some (' ' :: digits) := rfl
  unfold columnNote?
  rw [word, Option.bind_eq_bind, Option.bind_some, read]
  rfl

include told

/-- The message goes up to the line that is told behind it. -/
theorem errorAtLine?_written (silent : ¬MentionsLine message) (after : Text) (stops : takeDigits? after = none) :
    errorAtLine? ("Error: " ++ (message ++ (" at line " ++ (digits ++ after)))) =
      some ⟨message, some digits, columnNote? after⟩ := by
  have placed := atLine?_written nonempty all stops
  have unseen : ∀ t, t ≠ [] → t <:+ message → atLine? (t ++ (" at line " ++ (digits ++ after))) = none := by
    intro t filled within
    have start := trimStart_ne_nil_of_suffix told.trimmed filled within
    have noMention : atLine? t = none := by
      rw [← Option.not_isSome_iff_eq_none]
      intro read
      exact silent (mentionsLine_iff.mpr ⟨t, (List.mem_tails t message).mpr within, read⟩)
    have joined := atLine?_append start ("t line ".toList ++ (digits ++ after))
    rw [noMention] at joined
    exact joined
  have word : dropWord? "error:" ("Error: " ++ (message ++ (" at line " ++ (digits ++ after)))) =
      some (' ' :: (message ++ (" at line " ++ (digits ++ after)))) := rfl
  have skipped : restsAfter isBlank (' ' :: (message ++ (" at line " ++ (digits ++ after)))) =
      [message ++ (" at line " ++ (digits ++ after))] := by
    obtain ⟨c, rest, rfl⟩ := List.exists_cons_of_ne_nil told.nonempty
    exact restsAfter_space ((trim_eq_self_iff.mp told.trimmed).1 c rfl) _
  refine leftmost_of_here ?_
  rw [word, Option.bind_eq_bind, Option.bind_some, skipped, List.reverse_singleton, List.findSome?_singleton]
  refine findSome?_restsAfter_append told.nonempty told.inside (fun t filled within => ?_) ?_
  · rw [unseen t filled within]
    rfl
  · rw [placed, Option.bind_eq_bind, Option.bind_some, before_append]

theorem lineMessage?_written :
    lineMessage? ("Line " ++ (digits ++ (": " ++ message))) = some ⟨message, some digits, none⟩ := by
  have word : dropWord? "line" ("Line " ++ (digits ++ (": " ++ message))) =
      some (' ' :: (digits ++ (": " ++ message))) := rfl
  have number : blanksAndDigits? (' ' :: (digits ++ (": " ++ message))) = some (digits, ": " ++ message) :=
    blanksAndDigits?_append nonempty all rfl
  have colon : dropWord? ":" (": " ++ message) = some (' ' :: message) := rfl
  have read : openMessage? (' ' :: message) = some message := messageAfterBlanks?_space told rfl
  refine leftmost_of_here ?_
  simp only [word, Option.bind_eq_bind, Option.bind_some, number, colon, read]

theorem syntaxError?_written :
    syntaxError? ("Syntax error at line " ++ (digits ++ (" " ++ message))) =
      some ⟨"Syntax error: " ++ message, some digits, none⟩ := by
  have word : dropWord? "syntax" ("Syntax error at line " ++ (digits ++ (" " ++ message))) =
      some (" error at line " ++ (digits ++ (" " ++ message))) := rfl
  have word' : blanksAndWord? "error" (" error at line " ++ (digits ++ (" " ++ message))) =
      some (" at line " ++ (digits ++ (" " ++ message))) := rfl
  have placed : atLine? (" at line " ++ (digits ++ (" " ++ message))) = some (digits, " " ++ message) :=
    atLine?_written nonempty all rfl
  have read : openMessage? (dropOptional ':' (" " ++ message)) = some message :=
    messageAfterBlanks?_space told rfl
  refine leftmost_of_here ?_
  simp only [word, Option.bind_eq_bind, Option.bind_some, word', placed, read, Option.getD_some]

end Shapes

theorem errorMessage?_written {message : Text} (told : IsMessage message) :
    errorMessage? ("Error: " ++ message) = some ⟨message, none, none⟩ := by
  have word : dropWord? "error:" ("Error: " ++ message) = some (' ' :: message) := rfl
  have read : openMessage? (' ' :: message) = some message := messageAfterBlanks?_space told rfl
  refine leftmost_of_here ?_
  simp only [word, Option.bind_eq_bind, Option.bind_some, read]

theorem firstShape?_append {shapes : List ReportShape} {line : Text}
    (silent : ∀ shape ∈ shapes, shape.sighting? line = none) (rest : List ReportShape) :
    firstShape? (shapes ++ rest) line = firstShape? rest line := by
  induction shapes with
  | nil => rfl
  | cons shape shapes ih =>
    rw [List.cons_append, firstShape?, silent shape List.mem_cons_self, Option.none_or]
    exact ih fun other ho => silent other (List.mem_cons_of_mem shape ho)

/-- A line tells of a problem what a shape makes of it, if none of those that are tried before makes anything
of it. -/
theorem lineProblem?_of_shape (earlier : List ReportShape) {later : List ReportShape} {shape : ReportShape}
    {line : Text} {sighting : Sighting} {problem : Problem} (order : ReportShape.all = earlier ++ shape :: later)
    (silent : ∀ other ∈ earlier, other.sighting? line = none) (found : shape.sighting? line = some sighting)
    (numbers : sighting.problem = .ok problem) : lineProblem? line = .ok (some problem) := by
  have first : firstShape? ReportShape.all line = some sighting := by
    rw [order, firstShape?_append silent, firstShape?, found, Option.some_or]
  rw [lineProblem?, first, Option.some_or]
  change some <$> sighting.problem = _
  rw [numbers]
  rfl

/-- What is written in one of the shapes that tell of a message is read back from the line: the message, its
line and its column. The message must not mention a line itself where one is told behind it, and no shape that
is tried before must find anything on the line. -/
theorem lineProblem?_written {m : Text} {l c : Nat} (told : IsMessage m)
    (short : (natText l).length ≤ digitLimit) (short' : (natText c).length ≤ digitLimit) :
    (¬MentionsLine m →
      lineProblem? ("Error: " ++ (m ++ (" at line " ++ natText l))) = .ok (some ⟨m, some ⟨l, none⟩⟩) ∧
      lineProblem? ("Error: " ++ (m ++ (" at line " ++ (natText l ++ (", column " ++ natText c))))) =
        .ok (some ⟨m, some ⟨l, some c⟩⟩)) ∧
    (let line : Text := "Line " ++ (natText l ++ (": " ++ m))
     errorAtLine? line = none → lineProblem? line = .ok (some ⟨m, some ⟨l, none⟩⟩)) ∧
    (let line : Text := "Syntax error at line " ++ (natText l ++ (" " ++ m))
     (∀ shape ∈ ReportShape.all.take 3, shape.sighting? line = none) →
       lineProblem? line = .ok (some ⟨"Syntax error: " ++ m, some ⟨l, none⟩⟩)) ∧
    (let line : Text := "Error: " ++ m
     (∀ shape ∈ ReportShape.all.take 4, shape.sighting? line = none) →
       lineProblem? line = .ok (some ⟨m, none⟩)) := by
  have nonempty := natText_ne_nil
  have all : ∀ n, ∀ d ∈ natText n, d.isDigit = true := fun n d => isDigit_of_mem_natText
  have placed : ∀ message, Sighting.problem ⟨message, some (natText l), none⟩ =
      .ok ⟨message, some ⟨l, none⟩⟩ := fun message =>
    Detail.problem_of_written (d := ⟨message, l, none⟩) ⟨short, by simp⟩
  refine ⟨fun silent => ⟨?_, ?_⟩, fun unplaced => ?_, fun silent => ?_, fun silent => ?_⟩
  · have read := errorAtLine?_written told (nonempty l) (all l) silent [] rfl
    rw [List.append_nil] at read
    exact lineProblem?_of_shape [] rfl (by simp) read (placed m)
  · have read := errorAtLine?_written told (nonempty l) (all l) silent (", column " ++ natText c) rfl
    rw [columnNote?_written (nonempty c) (all c)] at read
    have column : Sighting.problem ⟨m, some (natText l), some (natText c)⟩ = .ok ⟨m, some ⟨l, some c⟩⟩ :=
      Detail.problem_of_written (d := ⟨m, l, some c⟩) ⟨short, by simpa using short'⟩
    exact lineProblem?_of_shape [] rfl (by simp) read column
  · refine lineProblem?_of_shape [.errorAtLine] rfl ?_
      (lineMessage?_written told (nonempty l) (all l)) (placed m)
    intro shape tried
    obtain rfl := List.mem_singleton.mp tried
    exact unplaced
  · exact lineProblem?_of_shape (ReportShape.all.take 3) rfl silent
      (syntaxError?_written told (nonempty l) (all l)) (placed _)
  · exact lineProblem?_of_shape (ReportShape.all.take 4) rfl silent (errorMessage?_written told) rfl

/-- A message that speaks of a line, but of none with a number, in each of the shapes. -/
theorem lineProblem?_of_unnumbered_line :
    lineProblem? "Error: bad at line end at line 7" = .ok (some ⟨"bad at line end", some ⟨7, none⟩⟩) ∧
    lineProblem? "Error: bad at line end at line 7, column 12" =
      .ok (some ⟨"bad at line end", some ⟨7, some 12⟩⟩) ∧
    lineProblem? "Line 7: bad at line end" = .ok (some ⟨"bad at line end", some ⟨7, none⟩⟩) ∧
    lineProblem? "Syntax error at line 7 bad at line end" =
      .ok (some ⟨"Syntax error: bad at line end", some ⟨7, none⟩⟩) ∧
    lineProblem? "Error: bad at line end" = .ok (some ⟨"bad at line end", none⟩) := by
  have told : IsMessage "bad at line end" := by decide
  obtain ⟨placed, line, syn, plain⟩ := lineProblem?_written (l := 7) (c := 12) told (by decide) (by decide)
  have silent : ¬MentionsLine "bad at line end" := by decide
  exact ⟨(placed silent).1, (placed silent).2, line (by decide), syn (by decide), plain (by decide)⟩

end BasicWorkbench
