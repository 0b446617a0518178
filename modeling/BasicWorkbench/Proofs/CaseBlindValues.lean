import BasicWorkbench.Proofs.LetterCase

namespace BasicWorkbench

theorem dropSign_asciiLower (s : Text) : dropSign (asciiLower s) = asciiLower (dropSign s) := by
  cases s with
  | nil => rfl
  | cons c s =>
    simp only [asciiLower_cons, dropSign, toLower_eq_iff (rfl : '+'.isAlpha = false),
      toLower_eq_iff (rfl : '-'.isAlpha = false)]
    split
    · rfl
    · rfl

theorem dropGroupTail_asciiLower (s : Text) : dropGroupTail (asciiLower s) = asciiLower (dropGroupTail s) := by
  have alone : ∀ c s, (∀ d rest, c = '_' → s = d :: rest → False) →
      ∀ d rest, c.toLower = '_' → asciiLower s = d :: rest → False := by
    intro c s single d rest under behind
    obtain ⟨e, tail, rfl, _⟩ := List.map_eq_cons_iff.mp behind
    exact single e tail ((toLower_eq_iff rfl).mp under) rfl
  fun_induction dropGroupTail s with
  | case1 => rfl
  | case2 c s digit ih =>
    have small : isDigit c.toLower = true := (caseBlind_isDigit c).trans digit
    exact (if_pos small).trans ih
  | case3 c s other =>
    have small : ¬isDigit c.toLower = true := fun digit => other ((caseBlind_isDigit c).symm.trans digit)
    exact if_neg small
  | case4 c s single digit ih =>
    rw [asciiLower_cons, dropGroupTail, caseBlind_isDigit c, if_pos digit, ih]
    exact alone c s single
  | case5 c s single other =>
    rw [asciiLower_cons, dropGroupTail, caseBlind_isDigit c, if_neg other]
    exact alone c s single

theorem dropDigitGroup?_asciiLower (s : Text) :
    dropDigitGroup? (asciiLower s) = (dropDigitGroup? s).map asciiLower := by
  cases s with
  | nil => rfl
  | cons c s =>
    rw [asciiLower_cons, dropDigitGroup?, dropDigitGroup?, caseBlind_isDigit c, dropGroupTail_asciiLower]
    split
    · rfl
    · rfl

theorem isExponentPart_asciiLower (s : Text) : isExponentPart (asciiLower s) = isExponentPart s := by
  cases s with
  | nil => rfl
  | cons c s =>
    have letter : CaseBlind fun c => (c = 'e' || c = 'E' : Bool) := caseBlind_of_ascii (by decide)
    have here : (c.toLower = 'e' || c.toLower = 'E' : Bool) = (c = 'e' || c = 'E' : Bool) := letter c
    rw [asciiLower_cons, isExponentPart, isExponentPart, here, dropSign_asciiLower, dropDigitGroup?_asciiLower]
    cases dropDigitGroup? (dropSign s) with
    | none => rfl
    | some rest =>
      cases rest with
      | nil => rfl
      | cons d rest => rfl

theorem isDecimal_asciiLower (s : Text) : isDecimal (asciiLower s) = isDecimal s := by
  unfold isDecimal
  rw [dropDigitGroup?_asciiLower]
  cases dropDigitGroup? s with
  | none =>
    cases s with
    | nil => rfl
    | cons c rest =>
      by_cases point : c = '.'
      · subst point
        have dot : asciiLower ('.' :: rest) = '.' :: asciiLower rest := rfl
        simp only [dot, Option.map_none, dropDigitGroup?_asciiLower]
        cases dropDigitGroup? rest with
        | none => rfl
        | some behind => exact isExponentPart_asciiLower behind
      · have point' : c.toLower ≠ '.' := fun same => point ((toLower_eq_iff rfl).mp same)
        simp [point, point']
  | some rest =>
    cases rest with
    | nil => rfl
    | cons c rest =>
      by_cases point : c = '.'
      · subst point
        change isExponentPart ((dropDigitGroup? (asciiLower rest)).getD (asciiLower rest)) = _
        rw [dropDigitGroup?_asciiLower, Option.getD_map, isExponentPart_asciiLower]
        rfl
      · have point' : c.toLower ≠ '.' := fun same => point ((toLower_eq_iff rfl).mp same)
        have exponent := isExponentPart_asciiLower (c :: rest)
        simpa [point, point'] using exponent

theorem isNumberLiteral_asciiLower (s : Text) : isNumberLiteral (asciiLower s) = isNumberLiteral s := by
  simp only [isNumberLiteral, dropSign_asciiLower, isDecimal_asciiLower, asciiLower_idem]

theorem isTruthLiteral_asciiLower (s : Text) : isTruthLiteral (asciiLower s) = isTruthLiteral s := by
  simp only [isTruthLiteral, asciiLower_idem]

theorem isQuotedLiteral_asciiLower (s : Text) : isQuotedLiteral (asciiLower s) = isQuotedLiteral s := by
  have quote : ∀ c : Option Char, (c.map Char.toLower == some '"') = (c == some '"') := by
    intro c
    cases c with
    | none => rfl
    | some c =>
      have sign : c.toLower = '"' ↔ c = '"' := toLower_eq_iff rfl
      rw [Bool.eq_iff_iff]
      simp [sign]
  rw [isQuotedLiteral, isQuotedLiteral, length_asciiLower, asciiLower, List.head?_map, List.getLast?_map,
    quote, quote]

theorem ofLiteral_asciiLower (value : Text) : ValueType.ofLiteral (asciiLower value) = .ofLiteral value := by
  simp only [ValueType.ofLiteral, trim_asciiLower, isQuotedLiteral_asciiLower, isTruthLiteral_asciiLower,
    isNumberLiteral_asciiLower]

end BasicWorkbench
