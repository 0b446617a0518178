import BasicWorkbench.Proofs.LineBreaks
import BasicWorkbench.Proofs.ReportSightings

namespace BasicWorkbench

/-- A text that can fill what is left of a line: it is not empty, has no blanks at its ends and does not end
a line. -/
structure FillsLine (s : Text) : Prop where
  nonempty : s ≠ []
  trimmed : trim s = s
  unbroken : ∀ c ∈ s, isSeparator c = false

instance (s : Text) : Decidable (FillsLine s) :=
  decidable_of_iff (s ≠ [] ∧ trim s = s ∧ s.all (isSeparator · = false) = true)
    ⟨fun h => ⟨h.1, h.2.1, forall_mem_of_all h.2.2⟩,
      fun h => ⟨h.nonempty, h.trimmed, List.all_eq_true.mpr fun c hc => decide_eq_true (h.unbroken c hc)⟩⟩

/-- A text that can be told as a message on a line: it is not empty, has no blanks at its ends and no line feed
inside. -/
structure IsMessage (s : Text) : Prop where
  nonempty : s ≠ []
  trimmed : trim s = s
  inside : ∀ c ∈ s, inLine c = true

instance (s : Text) : Decidable (IsMessage s) :=
  decidable_of_iff (s ≠ [] ∧ trim s = s ∧ s.all inLine = true)
    ⟨fun h => ⟨h.1, h.2.1, List.all_eq_true.mp h.2.2⟩,
      fun h => ⟨h.nonempty, h.trimmed, List.all_eq_true.mpr h.inside⟩⟩

structure Detail where
  message : Text
  line : Nat
  column : Option Nat
  deriving DecidableEq, Repr

namespace Detail

def columnText (d : Detail) : Text :=
  match d.column with
  | some column => ", Col " ++ natText column
  | none => []

def written (d : Detail) : Text := "Line " ++ (natText d.line ++ (d.columnText ++ (": " ++ d.message)))

def problem (d : Detail) : Problem := ⟨d.message, some ⟨d.line, d.column.map Int.ofNat⟩⟩

def Fits (d : Detail) : Prop :=
  (natText d.line).length ≤ digitLimit ∧ ∀ column ∈ d.column, (natText column).length ≤ digitLimit

instance (d : Detail) : Decidable d.Fits :=
  inferInstanceAs (Decidable
    ((natText d.line).length ≤ digitLimit ∧ ∀ column ∈ d.column, (natText column).length ≤ digitLimit))

end Detail

def writtenSummary (name : Text) (count : Nat) : Text := name ++ (": " ++ (natText count ++ " errors."))

/-- A summary and its details, each behind its own break. -/
def writtenReport (name : Text) (count : Nat) (details : List (LineBreak × Detail)) : Text :=
  writtenSummary name count ++ details.flatMap fun d => d.1.text ++ d.2.written

theorem isDigit_of_mem_natText {n : Nat} {c : Char} (h : c ∈ natText n) : c.isDigit = true :=
  Nat.isDigit_of_mem_toDigits (by decide) (by decide) h

theorem natText_ne_nil (n : Nat) : natText n ≠ [] :=
  List.length_pos_iff.mp Nat.length_toDigits_pos

theorem ascii_of_isDigit {c : Char} (h : c.isDigit = true) : c.toNat < 128 := by
  simp only [Char.isDigit, Bool.and_eq_true, decide_eq_true_eq] at h
  have bound : c.toNat ≤ 57 := UInt32.le_iff_toNat_le.mp h.2
  omega

theorem isDigit_of_ascii_digit {c : Char} (h : c.isDigit = true) : isDigit c = true :=
  forall_ascii (p := fun c => c.isDigit = true → isDigit c = true) (by decide) (ascii_of_isDigit h) h

theorem not_blank_of_ascii_digit {c : Char} (h : c.isDigit = true) : isBlank c = false :=
  forall_ascii (p := fun c => c.isDigit = true → isBlank c = false) (by decide) (ascii_of_isDigit h) h

theorem digitValue?_of_ascii_digit {c : Char} (h : c.isDigit = true) :
    digitValue? c = some (c.toNat - '0'.toNat) := by
  simp [digitValue?, ascii_of_isDigit h, h]

theorem digitsValue_natText (n : Nat) : digitsValue (natText n) = n := by
  have steps : ∀ (digits : Text) (m : Nat), (∀ c ∈ digits, c.isDigit = true) →
      digits.foldl (fun n c => n * 10 + (digitValue? c).getD 0) m = Nat.ofDigitChars 10 digits m := by
    intro digits
    induction digits with
    | nil => intros; rfl
    | cons c digits ih =>
      intro m all
      have first := digitValue?_of_ascii_digit (all c List.mem_cons_self)
      rw [List.foldl_cons, ih _ fun d hd => all d (List.mem_cons_of_mem c hd), first]
      simp [Nat.ofDigitChars, Nat.mul_comm]
  unfold digitsValue
  rw [steps _ _ fun c => isDigit_of_mem_natText]
  exact Nat.ofDigitChars_toDigits (by decide) (by decide)

theorem natText_head {n : Nat} (positive : 0 < n) : (natText n).head? ≠ some '0' := by
  unfold natText
  induction n using Nat.strongRecOn with
  | ind n ih =>
    by_cases small : n < 10
    · have single : ∀ n < 10, 0 < n → [n.digitChar].head? ≠ some '0' := by decide
      rw [Nat.toDigits_of_lt_base small]
      exact single n small positive
    · rw [Nat.toDigits_of_base_le (by decide) (by omega), List.head?_append]
      have rest := ih (n / 10) (by omega) (by omega)
      cases first : (Nat.toDigits 10 (n / 10)).head? with
      | none =>
        have empty := List.head?_eq_none_iff.mp first
        exact absurd empty (natText_ne_nil _)
      | some c =>
        rw [first] at rest
        simpa using rest

theorem readNumber_natText {n : Nat} (fits : (natText n).length ≤ digitLimit) :
    readNumber (natText n) = .ok n := by
  simp [readNumber, readDigits, Nat.not_lt.mpr fits, digitsValue_natText]

theorem takeDigits?_eq_none_iff {s : Text} : takeDigits? s = none ↔ s.takeWhile isDigit = [] := by
  unfold takeDigits?
  split
  next none => exact ⟨fun _ => none, fun _ => rfl⟩
  next some => exact ⟨fun eq => by simp at eq, fun none => absurd none some⟩

theorem takeDigits?_append {digits rest : Text} (nonempty : digits ≠ [])
    (all : ∀ d ∈ digits, d.isDigit = true) (stops : takeDigits? rest = none) :
    takeDigits? (digits ++ rest) = some (digits, rest) := by
  have every : ∀ d ∈ digits, isDigit d = true := fun d hd => isDigit_of_ascii_digit (all d hd)
  obtain ⟨taken, left⟩ := span_append every (takeDigits?_eq_none_iff.mp stops)
  unfold takeDigits?
  rw [taken, left]
  cases digits with
  | nil => exact absurd rfl nonempty
  | cons d digits => rfl

theorem dropBlanks?_space {c : Char} (solid : isBlank c = false) (s : Text) :
    dropBlanks? (' ' :: c :: s) = some (c :: s) := by
  have start := trimStart_of_not_blank solid s
  simp [dropBlanks?, start, show isBlank ' ' = true by decide]

theorem blanksAndDigits?_append {digits rest : Text} (nonempty : digits ≠ [])
    (all : ∀ d ∈ digits, d.isDigit = true) (stops : takeDigits? rest = none) :
    blanksAndDigits? (' ' :: (digits ++ rest)) = some (digits, rest) := by
  obtain ⟨d, digits, rfl⟩ := List.exists_cons_of_ne_nil nonempty
  have solid := not_blank_of_ascii_digit (all d List.mem_cons_self)
  have read : takeDigits? (d :: digits ++ rest) = some (d :: digits, rest) :=
    takeDigits?_append nonempty all stops
  simpa [blanksAndDigits?, dropBlanks?_space solid] using read

theorem trimEnd_eq_self_iff {s : Text} :
    trimEnd s = s ↔ ∀ c, s.getLast? = some c → isBlank c = false := by
  rw [← List.head?_reverse, ← trimStart_eq_self_iff]
  exact List.reverse_eq_iff

/-- A text is trimmed if it starts and ends with other characters than blanks. -/
theorem trim_eq_self_iff {s : Text} :
    trim s = s ↔ (∀ c, s.head? = some c → isBlank c = false) ∧
      ∀ c, s.getLast? = some c → isBlank c = false := by
  rw [← trimStart_eq_self_iff, ← trimEnd_eq_self_iff]
  constructor
  · intro trimmed
    have shorter : (trim s).length ≤ (trimStart s).length := by
      simpa [trim, trimEnd] using (List.dropWhile_suffix isBlank (l := (trimStart s).reverse)).length_le
    have start : trimStart s <:+ s := List.dropWhile_suffix _
    have bound := start.length_le
    have same : trimStart s = s := start.eq_of_length (by rw [trimmed] at shorter; omega)
    rw [trim, same] at trimmed
    exact ⟨same, trimmed⟩
  · intro h
    rw [trim, h.1, h.2]

theorem inLine_of_not_separator {c : Char} (h : isSeparator c = false) : inLine c = true := by
  unfold inLine
  rw [bne_iff_ne]
  rintro rfl
  simp [show isSeparator '\n' = true by decide] at h

theorem outputLines_cons {c : Char} (inside : isSeparator c = false) (s : Text) :
    outputLines (c :: s) = consHead c (outputLines s) := by
  rw [outputLines]
  · simp [inside]
  · rintro _ rfl
    simp [show isSeparator '\r' = true by decide] at inside

theorem outputLines_break (b : LineBreak) {rest : Text} (solid : rest.head? ≠ some '\n') :
    outputLines (b.text ++ rest) = [] :: outputLines rest := by
  cases b with
  | lineFeed => rfl
  | pair => rfl
  | carriageReturn =>
    cases rest with
    | nil => rfl
    | cons c rest =>
      have other : c ≠ '\n' := by simpa using solid
      change outputLines ('\r' :: c :: rest) = _
      rw [outputLines]
      · rfl
      · intro t _ eq
        exact other (List.cons.inj eq).1

theorem outputLines_line_break {line : Text} (unbroken : ∀ c ∈ line, isSeparator c = false) (b : LineBreak)
    {rest : Text} (solid : rest.head? ≠ some '\n') :
    outputLines (line ++ (b.text ++ rest)) = line :: outputLines rest := by
  induction line with
  | nil => exact outputLines_break b solid
  | cons c line ih =>
    rw [List.cons_append, outputLines_cons (unbroken c List.mem_cons_self),
      ih fun d hd => unbroken d (List.mem_cons_of_mem c hd)]
    rfl

theorem outputLines_of_unbroken {line : Text} (nonempty : line ≠ [])
    (unbroken : ∀ c ∈ line, isSeparator c = false) : outputLines line = [line] := by
  induction line with
  | nil => exact absurd rfl nonempty
  | cons c line ih =>
    rw [outputLines_cons (unbroken c List.mem_cons_self)]
    cases line with
    | nil => rfl
    | cons d line =>
      rw [ih (by simp) fun e he => unbroken e (List.mem_cons_of_mem c he)]
      rfl

theorem not_separator_of_ascii_digit {c : Char} (h : c.isDigit = true) : isSeparator c = false :=
  forall_ascii (p := fun c => c.isDigit = true → isSeparator c = false) (by decide) (ascii_of_isDigit h) h

theorem FillsLine.isMessage {s : Text} (fills : FillsLine s) : IsMessage s :=
  ⟨fills.nonempty, fills.trimmed, fun c hc => inLine_of_not_separator (fills.unbroken c hc)⟩

theorem restsAfter_space {c : Char} (solid : isBlank c = false) (s : Text) :
    restsAfter isBlank (' ' :: c :: s) = [c :: s] := by
  simp [restsAfter, solid, show isBlank ' ' = true by decide]

theorem messageAfterBlanks?_space {message : Text} (told : IsMessage message) {finish : Text → Bool}
    (stops : finish [] = true) :
    messageAfterBlanks? finish (' ' :: message) = some message := by
  obtain ⟨c, rest, rfl⟩ := List.exists_cons_of_ne_nil told.nonempty
  have solid : isBlank c = false := (trim_eq_self_iff.mp told.trimmed).1 c rfl
  have taken : (c :: rest).takeWhile inLine = c :: rest := List.takeWhile_eq_self_iff.mpr told.inside
  have left : (c :: rest).dropWhile inLine = [] := List.dropWhile_eq_nil_iff.mpr told.inside
  unfold messageAfterBlanks?
  rw [restsAfter_space solid]
  simp [taken, left, stops]

namespace Detail

theorem colPart_written (d : Detail) (rest : Text) :
    colPart (d.columnText ++ ':' :: rest) = (d.column.map natText, ':' :: rest) := by
  unfold columnText
  cases d.column with
  | none => rfl
  | some column =>
    have digits : blanksAndDigits? (' ' :: (natText column ++ ':' :: rest)) =
        some (natText column, ':' :: rest) :=
      blanksAndDigits?_append (natText_ne_nil column) (fun c => isDigit_of_mem_natText) rfl
    have noted : colNote? (", Col " ++ natText column ++ ':' :: rest) =
        some (natText column, ':' :: rest) := by
      rw [List.append_assoc]
      exact digits
    simp only [colPart, noted, Option.map_some]

theorem detail?_written {d : Detail} (fills : FillsLine d.message) :
    detail? d.written = some ⟨d.message, some (natText d.line), d.column.map natText⟩ := by
  have word : dropWord? "line" d.written =
      some (' ' :: (natText d.line ++ (d.columnText ++ ':' :: ' ' :: d.message))) := rfl
  have line : blanksAndDigits? (' ' :: (natText d.line ++ (d.columnText ++ ':' :: ' ' :: d.message))) =
      some (natText d.line, d.columnText ++ ':' :: ' ' :: d.message) := by
    unfold columnText
    cases d.column with
    | none => exact blanksAndDigits?_append (natText_ne_nil _) (fun c => isDigit_of_mem_natText) rfl
    | some column =>
      exact blanksAndDigits?_append (natText_ne_nil _) (fun c => isDigit_of_mem_natText) rfl
  have colon : dropWord? ":" (':' :: ' ' :: d.message) = some (' ' :: d.message) := rfl
  have message : messageAfterBlanks? atEnd (' ' :: d.message) = some d.message :=
    messageAfterBlanks?_space fills.isMessage rfl
  rw [detail?_eq, word]
  simp only [Option.bind_eq_bind, Option.bind_some, line, colPart_written, colon, message]

theorem problem_of_written {d : Detail} (fits : d.Fits) :
    Sighting.problem ⟨d.message, some (natText d.line), d.column.map natText⟩ = .ok d.problem := by
  obtain ⟨message, line, column⟩ := d
  have line' := readNumber_natText fits.1
  cases column with
  | none =>
    rw [Option.map_none, Sighting.problem_of_line, line']
    rfl
  | some column =>
    have column' := readNumber_natText (fits.2 column rfl)
    rw [Option.map_some, Sighting.problem_of_column, line', column']
    rfl

end Detail

end BasicWorkbench
