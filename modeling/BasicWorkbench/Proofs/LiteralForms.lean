import BasicWorkbench.Proofs.CaseBlindValues

namespace BasicWorkbench

/-- Digits of any script, with single underscores between two of them or none. -/
inductive DigitGroup : Text → Prop
  | single {c : Char} (digit : isDigit c = true) : DigitGroup [c]
  | next {c : Char} {s : Text} (digit : isDigit c = true) (rest : DigitGroup s) : DigitGroup (c :: s)
  | apart {c : Char} {s : Text} (digit : isDigit c = true) (rest : DigitGroup s) : DigitGroup (c :: '_' :: s)

inductive SignForm : Text → Prop
  | none : SignForm []
  | plus : SignForm ['+']
  | minus : SignForm ['-']

inductive MantissaForm : Text → Prop
  | whole {digits : Text} (group : DigitGroup digits) : MantissaForm digits
  | pointed {digits : Text} (group : DigitGroup digits) : MantissaForm (digits ++ ['.'])
  | parted {digits part : Text} (group : DigitGroup digits) (behind : DigitGroup part) :
      MantissaForm (digits ++ '.' :: part)
  | part {part : Text} (behind : DigitGroup part) : MantissaForm ('.' :: part)

inductive ExponentForm : Text → Prop
  | none : ExponentForm []
  | power {mark : Char} {sign digits : Text} (letter : mark = 'e' ∨ mark = 'E') (signed : SignForm sign)
      (group : DigitGroup digits) : ExponentForm (mark :: (sign ++ digits))

/-- A number without its sign: a word for an infinite or undefined one, or a decimal. -/
inductive UnsignedForm : Text → Prop
  | word {s : Text} (spelled : asciiLower s = "inf".toList ∨ asciiLower s = "infinity".toList ∨
      asciiLower s = "nan".toList) : UnsignedForm s
  | decimal {mantissa exponent : Text} (digits : MantissaForm mantissa) (power : ExponentForm exponent) :
      UnsignedForm (mantissa ++ exponent)

def NumberForm (s : Text) : Prop := ∃ sign body, s = sign ++ body ∧ SignForm sign ∧ UnsignedForm body

theorem not_digit_of_underscore {c : Char} (digit : isDigit c = true) : c ≠ '_' := by
  rintro rfl
  exact absurd digit (by decide)

theorem dropGroupTail_digit {c : Char} (digit : isDigit c = true) (s : Text) :
    dropGroupTail (c :: s) = dropGroupTail s := by
  rw [dropGroupTail]
  · exact if_pos digit
  · intro d rest underscore
    exact absurd underscore (not_digit_of_underscore digit)

/-- Where a group does not go on, it is the rest that is left. -/
theorem dropGroupTail_of_stop {s : Text} (stops : ∀ c ∈ s.head?, isDigit c = false ∧ c ≠ '_') :
    dropGroupTail s = s := by
  cases s with
  | nil => rfl
  | cons c s =>
    obtain ⟨other, underscore⟩ := stops c rfl
    rw [dropGroupTail]
    · exact if_neg (by simp [other])
    · intro d rest same
      exact absurd same underscore

theorem DigitGroup.head {s : Text} (group : DigitGroup s) : ∃ c rest, s = c :: rest ∧ isDigit c = true := by
  cases group with
  | single digit => exact ⟨_, _, rfl, digit⟩
  | next digit rest => exact ⟨_, _, rfl, digit⟩
  | apart digit rest => exact ⟨_, _, rfl, digit⟩

theorem dropDigitGroup?_digit {c : Char} (digit : isDigit c = true) (s : Text) :
    dropDigitGroup? (c :: s) = some (dropGroupTail s) := if_pos digit

theorem DigitGroup.dropDigitGroup?_append {digits : Text} (group : DigitGroup digits) {s : Text}
    (stops : ∀ c ∈ s.head?, isDigit c = false ∧ c ≠ '_') : dropDigitGroup? (digits ++ s) = some s := by
  induction group with
  | single digit => exact (dropDigitGroup?_digit digit s).trans (congrArg some (dropGroupTail_of_stop stops))
  | @next c rest digit group ih =>
    obtain ⟨d, rest, rfl, digit'⟩ := group.head
    have later := ih
    rw [List.cons_append, dropDigitGroup?_digit digit'] at later
    rw [List.cons_append, dropDigitGroup?_digit digit, List.cons_append, dropGroupTail_digit digit', later]
  | @apart c rest digit group ih =>
    obtain ⟨d, rest, rfl, digit'⟩ := group.head
    have later := ih
    rw [List.cons_append, dropDigitGroup?_digit digit'] at later
    have skipped : dropGroupTail ('_' :: d :: (rest ++ s)) = dropGroupTail (rest ++ s) := if_pos digit'
    exact (dropDigitGroup?_digit digit _).trans ((congrArg some skipped).trans later)

/-- What is passed over behind a digit makes a group with it. -/
theorem exists_groupTail (s : Text) :
    ∃ t, s = t ++ dropGroupTail s ∧ ∀ c, isDigit c = true → DigitGroup (c :: t) := by
  fun_induction dropGroupTail s with
  | case1 => exact ⟨[], rfl, fun _ => .single⟩
  | case2 c s digit ih =>
    obtain ⟨t, parts, group⟩ := ih
    exact ⟨'_' :: c :: t, congrArg ('_' :: c :: ·) parts, fun _ before => .apart before (group c digit)⟩
  | case3 c s other => exact ⟨[], rfl, fun _ => .single⟩
  | case4 c s single digit ih =>
    obtain ⟨t, parts, group⟩ := ih
    exact ⟨c :: t, congrArg (c :: ·) parts, fun _ before => .next before (group c digit)⟩
  | case5 c s single other => exact ⟨[], rfl, fun _ => .single⟩

theorem exists_digitGroup {s rest : Text} (dropped : dropDigitGroup? s = some rest) :
    ∃ digits, s = digits ++ rest ∧ DigitGroup digits := by
  cases s with
  | nil => simp [dropDigitGroup?] at dropped
  | cons c s =>
    simp only [dropDigitGroup?] at dropped
    split at dropped
    next digit =>
      obtain ⟨t, parts, group⟩ := exists_groupTail s
      obtain rfl := Option.some.inj dropped
      exact ⟨c :: t, congrArg (c :: ·) parts, group c digit⟩
    next => simp at dropped

theorem exists_sign (s : Text) : ∃ sign, s = sign ++ dropSign s ∧ SignForm sign := by
  cases s with
  | nil => exact ⟨[], rfl, .none⟩
  | cons c s =>
    simp only [dropSign]
    split
    next signed =>
      rcases Bool.or_eq_true_iff.mp signed with plus | minus
      · exact ⟨['+'], by rw [of_decide_eq_true plus]; rfl, .plus⟩
      · exact ⟨['-'], by rw [of_decide_eq_true minus]; rfl, .minus⟩
    next => exact ⟨[], rfl, .none⟩

theorem SignForm.dropSign_append {sign : Text} (signed : SignForm sign) {s : Text}
    (unsigned : ∀ c ∈ s.head?, c ≠ '+' ∧ c ≠ '-') : dropSign (sign ++ s) = s := by
  cases signed with
  | plus => rfl
  | minus => rfl
  | none =>
    cases s with
    | nil => rfl
    | cons c s =>
      obtain ⟨plus, minus⟩ := unsigned c rfl
      exact if_neg (by simp [plus, minus])

theorem ne_sign_of_digit {c : Char} (digit : isDigit c = true) : c ≠ '+' ∧ c ≠ '-' := by
  constructor
  · rintro rfl
    exact absurd digit (by decide)
  · rintro rfl
    exact absurd digit (by decide)

theorem isExponentPart_iff {s : Text} : isExponentPart s = true ↔ ExponentForm s := by
  constructor
  · intro h
    cases s with
    | nil => exact .none
    | cons c s =>
      obtain ⟨letter, group⟩ := Bool.and_eq_true_iff.mp h
      obtain ⟨sign, parts, signed⟩ := exists_sign s
      obtain ⟨digits, whole, group⟩ := exists_digitGroup (beq_iff_eq.mp group)
      rw [List.append_nil] at whole
      rw [parts, whole]
      exact .power (by simpa using letter) signed group
  · intro h
    cases h with
    | none => rfl
    | @power mark sign digits letter signed group =>
      obtain ⟨c, rest, first, digit⟩ := group.head
      have unsigned : ∀ d ∈ digits.head?, d ≠ '+' ∧ d ≠ '-' := by
        rw [first]
        rintro d ⟨⟩
        exact ne_sign_of_digit digit
      have whole : dropDigitGroup? digits = some [] := by
        simpa using group.dropDigitGroup?_append (s := []) (by simp)
      rw [isExponentPart, signed.dropSign_append unsigned, whole]
      simpa using letter

theorem ExponentForm.stops {s : Text} (power : ExponentForm s) :
    ∀ c ∈ s.head?, isDigit c = false ∧ c ≠ '_' ∧ c ≠ '.' := by
  cases power with
  | none => simp
  | power letter signed group =>
    rintro c ⟨⟩
    rcases letter with rfl | rfl
    · decide
    · decide

theorem dropDigitGroup?_of_exponent {s : Text} (power : ExponentForm s) : dropDigitGroup? s = none := by
  cases s with
  | nil => rfl
  | cons c s => exact if_neg (by simp [(power.stops c rfl).1])

theorem isDecimal_of_point {s rest : Text} (dropped : dropDigitGroup? s = some ('.' :: rest)) :
    isDecimal s = isExponentPart ((dropDigitGroup? rest).getD rest) := by
  simp only [isDecimal, dropped]

theorem isDecimal_of_whole {s rest : Text} (dropped : dropDigitGroup? s = some rest) (other : rest.head? ≠ some '.') :
    isDecimal s = isExponentPart rest := by
  cases rest with
  | nil => simp only [isDecimal, dropped]
  | cons c rest =>
    have point : c ≠ '.' := fun same => other (congrArg some same)
    simp [isDecimal, dropped, point]

theorem isDecimal_point (rest : Text) :
    isDecimal ('.' :: rest) = ((dropDigitGroup? rest).map isExponentPart).getD false := by
  have dropped : dropDigitGroup? ('.' :: rest) = none := rfl
  simp only [isDecimal, dropped]
  cases dropDigitGroup? rest with
  | none => rfl
  | some behind => rfl

theorem isDecimal_of_other {s : Text} (dropped : dropDigitGroup? s = none) (other : s.head? ≠ some '.') :
    isDecimal s = false := by
  cases s with
  | nil => rfl
  | cons c s =>
    have point : c ≠ '.' := fun same => other (congrArg some same)
    simp [isDecimal, dropped, point]

theorem exists_mantissa {s : Text} (decimal : isDecimal s = true) :
    ∃ mantissa exponent, s = mantissa ++ exponent ∧ MantissaForm mantissa ∧ ExponentForm exponent := by
  cases dropped : dropDigitGroup? s with
  | some rest =>
    obtain ⟨digits, rfl, group⟩ := exists_digitGroup dropped
    by_cases point : rest.head? = some '.'
    · obtain ⟨rest, rfl⟩ := List.head?_eq_some_iff.mp point
      rw [isDecimal_of_point dropped] at decimal
      cases parted : dropDigitGroup? rest with
      | none =>
        rw [parted] at decimal
        exact ⟨digits ++ ['.'], rest, by simp, .pointed group, isExponentPart_iff.mp decimal⟩
      | some behind =>
        obtain ⟨part, rfl, group'⟩ := exists_digitGroup parted
        rw [parted] at decimal
        exact ⟨digits ++ '.' :: part, behind, by simp, .parted group group', isExponentPart_iff.mp decimal⟩
    · rw [isDecimal_of_whole dropped point] at decimal
      exact ⟨digits, rest, rfl, .whole group, isExponentPart_iff.mp decimal⟩
  | none =>
    by_cases point : s.head? = some '.'
    · obtain ⟨rest, rfl⟩ := List.head?_eq_some_iff.mp point
      rw [isDecimal_point] at decimal
      cases parted : dropDigitGroup? rest with
      | none => simp [parted] at decimal
      | some behind =>
        obtain ⟨part, rfl, group⟩ := exists_digitGroup parted
        rw [parted] at decimal
        exact ⟨'.' :: part, behind, rfl, .part group, isExponentPart_iff.mp decimal⟩
    · rw [isDecimal_of_other dropped point] at decimal
      contradiction

theorem isDecimal_append {mantissa exponent : Text} (digits : MantissaForm mantissa) (power : ExponentForm exponent) :
    isDecimal (mantissa ++ exponent) = true := by
  have ends := isExponentPart_iff.mpr power
  have stops : ∀ c ∈ exponent.head?, isDigit c = false ∧ c ≠ '_' :=
    fun c hc => ⟨(power.stops c hc).1, (power.stops c hc).2.1⟩
  have point : ∀ s : Text, ∀ c ∈ ('.' :: s).head?, isDigit c = false ∧ c ≠ '_' := by
    rintro s c ⟨⟩
    decide
  cases digits with
  | whole group =>
    have other : exponent.head? ≠ some '.' := fun same => (power.stops '.' same).2.2 rfl
    rw [isDecimal_of_whole (group.dropDigitGroup?_append stops) other, ends]
  | @pointed digits group =>
    rw [List.append_assoc, List.singleton_append, isDecimal_of_point (group.dropDigitGroup?_append (point exponent)),
      dropDigitGroup?_of_exponent power, Option.getD_none, ends]
  | @parted digits part group group' =>
    rw [List.append_assoc, List.cons_append,
      isDecimal_of_point (group.dropDigitGroup?_append (point (part ++ exponent))),
      group'.dropDigitGroup?_append stops, Option.getD_some, ends]
  | part group =>
    rw [List.cons_append, isDecimal_point, group.dropDigitGroup?_append stops, Option.map_some, Option.getD_some, ends]

theorem isUnsigned_iff {s : Text} :
    (isDecimal s || ["inf".toList, "infinity".toList, "nan".toList].contains (asciiLower s)) = true ↔
      UnsignedForm s := by
  rw [Bool.or_eq_true]
  constructor
  · rintro (decimal | word)
    · obtain ⟨mantissa, exponent, rfl, digits, power⟩ := exists_mantissa decimal
      exact .decimal digits power
    · exact .word (by simpa using word)
  · intro form
    cases form with
    | word spelled => exact .inr (by simpa using spelled)
    | decimal digits power => exact .inl (isDecimal_append digits power)

/-- A number without its sign starts with a digit, a point or the first letter of a word. -/
theorem UnsignedForm.head {s : Text} (form : UnsignedForm s) :
    ∃ c rest, s = c :: rest ∧ (isDigit c.toLower = true ∨ c.toLower ∈ ".in".toList) := by
  have ofDigits : ∀ {digits behind : Text}, DigitGroup digits → ∃ c rest, digits ++ behind = c :: rest ∧
      (isDigit c.toLower = true ∨ c.toLower ∈ ".in".toList) := by
    intro digits behind group
    obtain ⟨c, rest, rfl, digit⟩ := group.head
    exact ⟨c, rest ++ behind, rfl, .inl ((caseBlind_isDigit c).trans digit)⟩
  cases form with
  | word spelled =>
    rcases spelled with word | word | word
    all_goals
      obtain ⟨c, rest, rfl, first, _⟩ := List.map_eq_cons_iff.mp word
      exact ⟨c, rest, rfl, .inr (by rw [first]; decide)⟩
  | decimal digits power =>
    cases digits with
    | whole group => exact ofDigits group
    | pointed group => exact List.append_assoc _ _ _ ▸ ofDigits group
    | parted group => exact List.append_assoc _ _ _ ▸ ofDigits group
    | part group => exact ⟨'.', _, rfl, .inr (by decide)⟩

theorem UnsignedForm.unsigned {s : Text} (form : UnsignedForm s) : ∀ c ∈ s.head?, c ≠ '+' ∧ c ≠ '-' := by
  obtain ⟨c, rest, rfl, first⟩ := form.head
  rintro d ⟨⟩
  constructor
  · rintro rfl
    exact absurd first (by decide)
  · rintro rfl
    exact absurd first (by decide)

theorem isNumberLiteral_iff {s : Text} : isNumberLiteral s = true ↔ NumberForm s := by
  constructor
  · intro number
    obtain ⟨sign, parts, signed⟩ := exists_sign s
    exact ⟨sign, dropSign s, parts, signed, isUnsigned_iff.mp number⟩
  · rintro ⟨sign, body, rfl, signed, form⟩
    rw [isNumberLiteral, signed.dropSign_append form.unsigned]
    exact isUnsigned_iff.mpr form

def QuotedForm (s : Text) : Prop := 2 ≤ s.length ∧ s.head? = some '"' ∧ s.getLast? = some '"'

def TruthForm (s : Text) : Prop := asciiLower s = "true".toList ∨ asciiLower s = "false".toList

theorem isQuotedLiteral_iff {s : Text} : isQuotedLiteral s = true ↔ QuotedForm s := by
  simp [isQuotedLiteral, QuotedForm, and_assoc]

theorem isTruthLiteral_iff {s : Text} : isTruthLiteral s = true ↔ TruthForm s := by
  simp [isTruthLiteral, TruthForm]

theorem TruthForm.head {s : Text} (truth : TruthForm s) : ∃ c rest, s = c :: rest ∧ c.toLower ∈ "tf".toList := by
  rcases truth with word | word
  all_goals
    obtain ⟨c, rest, rfl, first, _⟩ := List.map_eq_cons_iff.mp word
    exact ⟨c, rest, rfl, by rw [first]; decide⟩

theorem NumberForm.head {s : Text} (number : NumberForm s) :
    ∃ c rest, s = c :: rest ∧ (isDigit c.toLower = true ∨ c.toLower ∈ "+-.in".toList) := by
  obtain ⟨sign, body, rfl, signed, form⟩ := number
  cases signed with
  | plus => exact ⟨'+', body, rfl, .inr (by decide)⟩
  | minus => exact ⟨'-', body, rfl, .inr (by decide)⟩
  | none =>
    obtain ⟨c, rest, rfl, first⟩ := form.head
    exact ⟨c, rest, rfl, first.imp_right fun word => List.mem_append_right "+-".toList word⟩

theorem QuotedForm.not_truth {s : Text} (quoted : QuotedForm s) : ¬TruthForm s := by
  intro truth
  obtain ⟨c, rest, rfl, first⟩ := truth.head
  obtain rfl : c = '"' := Option.some.inj quoted.2.1
  exact absurd first (by decide)

theorem QuotedForm.not_number {s : Text} (quoted : QuotedForm s) : ¬NumberForm s := by
  intro number
  obtain ⟨c, rest, rfl, first⟩ := number.head
  obtain rfl : c = '"' := Option.some.inj quoted.2.1
  exact absurd first (by decide)

theorem TruthForm.not_number {s : Text} (truth : TruthForm s) : ¬NumberForm s := by
  intro number
  obtain ⟨c, rest, rfl, letter⟩ := truth.head
  obtain ⟨_, _, same, first⟩ := number.head
  obtain ⟨rfl, _⟩ := List.cons.inj same
  have apart := forall_mem_of_all (p := fun c => ¬(isDigit c = true ∨ c ∈ "+-.in".toList)) (s := "tf".toList) (by decide)
  exact apart _ letter first

/-- The type of a value is that of the form in which it is written, blanks around it aside, and a value is written
in one form at most. -/
theorem ofLiteral_exact (value : Text) :
    let s := trim value
    (ValueType.ofLiteral value = .string ↔ QuotedForm s) ∧
      (ValueType.ofLiteral value = .boolean ↔ TruthForm s) ∧
      (ValueType.ofLiteral value = .number ↔ NumberForm s) ∧
      (ValueType.ofLiteral value = .variable ↔ ¬QuotedForm s ∧ ¬TruthForm s ∧ ¬NumberForm s) ∧
      ∀ t, ¬(QuotedForm t ∧ TruthForm t) ∧ ¬(QuotedForm t ∧ NumberForm t) ∧ ¬(TruthForm t ∧ NumberForm t) := by
  intro s
  have type : ValueType.ofLiteral value =
      if isQuotedLiteral s then .string else if isTruthLiteral s then .boolean
        else if isNumberLiteral s then .number else .variable := rfl
  have apart : ∀ t, ¬(QuotedForm t ∧ TruthForm t) ∧ ¬(QuotedForm t ∧ NumberForm t) ∧ ¬(TruthForm t ∧ NumberForm t) :=
    fun t => ⟨fun both => both.1.not_truth both.2, fun both => both.1.not_number both.2,
      fun both => both.1.not_number both.2⟩
  by_cases quoted : QuotedForm s
  · rw [type, if_pos (isQuotedLiteral_iff.mpr quoted)]
    simp [quoted, quoted.not_truth, quoted.not_number, apart]
  · rw [type, if_neg (isQuotedLiteral_iff.not.mpr quoted)]
    by_cases truth : TruthForm s
    · rw [if_pos (isTruthLiteral_iff.mpr truth)]
      simp [quoted, truth, truth.not_number, apart]
    · rw [if_neg (isTruthLiteral_iff.not.mpr truth)]
      by_cases number : NumberForm s
      · rw [if_pos (isNumberLiteral_iff.mpr number)]
        simp [quoted, truth, number, apart]
      · rw [if_neg (isNumberLiteral_iff.not.mpr number)]
        simp [quoted, truth, number, apart]

/-- Blanks, a sign, underscores, a digit of another script and an exponent. -/
example : ValueType.ofLiteral " -1_0.٣e+0_7\t" = .number ∧ ValueType.ofLiteral "1__0" = .variable := by decide

end BasicWorkbench
