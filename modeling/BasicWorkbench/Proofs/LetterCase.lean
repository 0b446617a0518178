import BasicWorkbench.Analyzers
import BasicWorkbench.Proofs.TextMatches

namespace BasicWorkbench

theorem isAlpha_iff {c : Char} :
    c.isAlpha = true ↔ 0x41 ≤ c.toNat ∧ c.toNat ≤ 0x5a ∨ 0x61 ≤ c.toNat ∧ c.toNat ≤ 0x7a := by
  have ranges : c.isAlpha =
      (decide (65 ≤ c.val ∧ c.val ≤ 90) || decide (97 ≤ c.val) && decide (c.val ≤ 122)) := rfl
  simp only [ranges, Bool.or_eq_true, Bool.and_eq_true, decide_eq_true_eq, UInt32.le_iff_toNat_le]
  rfl

theorem not_digit_of_isAlpha {c : Char} (letter : c.isAlpha = true) : c.isDigit = false := by
  have range := isAlpha_iff.mp letter
  rw [Bool.eq_false_iff]
  intro digit
  simp only [Char.isDigit, Bool.and_eq_true, decide_eq_true_eq, UInt32.le_iff_toNat_le] at digit
  have last : c.toNat ≤ 57 := digit.2
  omega

theorem toLower_eq_or_letter (c : Char) : c.toLower = c ∨ c.isAlpha = true ∧ c.toLower.isAlpha = true := by
  by_cases ascii : c.toNat < 128
  · exact forall_ascii (p := fun c => c.toLower = c ∨ c.isAlpha = true ∧ c.toLower.isAlpha = true)
      (by decide) ascii
  · exact .inl (toLower_of_beyond_ascii (Nat.le_of_not_lt ascii))

/-- A capital of ASCII counts as its small letter. -/
def CaseBlind {α : Type} (p : Char → α) : Prop := ∀ c, p c.toLower = p c

/-- What makes no difference between letters makes none between capitals and small ones. -/
theorem caseBlind_of_letters {α : Type} {p : Char → α} {a : α} (same : ∀ c, c.isAlpha = true → p c = a) :
    CaseBlind p := by
  intro c
  rcases toLower_eq_or_letter c with kept | ⟨letter, small⟩
  · rw [kept]
  · rw [same c letter, same c.toLower small]

theorem CaseBlind.comp {α β : Type} {p : Char → α} (blind : CaseBlind p) (f : α → β) :
    CaseBlind fun c => f (p c) := fun c => congrArg f (blind c)

theorem caseBlind_isAsciiLetter : CaseBlind isAsciiLetter := caseBlind_of_letters fun _ letter => letter

theorem caseBlind_isNameChar : CaseBlind isNameChar :=
  caseBlind_of_letters (a := true) fun c letter => by simp [isNameChar, Char.isAlphanum, letter]

theorem caseBlind_isBlank : CaseBlind isBlank := by
  refine caseBlind_of_letters (a := false) fun c letter => ?_
  have range := isAlpha_iff.mp letter
  simp only [isBlank, Bool.or_eq_false_iff, Bool.and_eq_false_iff, decide_eq_false_iff_not]
  omega

theorem caseBlind_inLine : CaseBlind inLine := by
  refine caseBlind_of_letters (a := true) fun c letter => ?_
  rw [inLine, bne_iff_ne]
  rintro rfl
  contradiction

theorem caseBlind_isWord : CaseBlind isWord := by
  refine caseBlind_of_letters (a := true) fun c letter => ?_
  have range := isAlpha_iff.mp letter
  have ascii : c.toNat < 128 := by omega
  simp [isWord, ascii, Char.isAlphanum, letter]

theorem caseBlind_isDigit : CaseBlind isDigit := by
  refine caseBlind_of_letters (a := false) fun c letter => ?_
  have range := isAlpha_iff.mp letter
  have ascii : c.toNat < 128 := by omega
  simp [isDigit, digitValue?, ascii, not_digit_of_isAlpha letter]

theorem caseBlind_isCased : CaseBlind isCased := by
  refine caseBlind_of_letters (a := true) fun c letter => ?_
  rw [isCased, inRanges_iff]
  rcases isAlpha_iff.mp letter with capital | small
  · exact ⟨(0x41, 0x5a), .head _, capital⟩
  · exact ⟨(0x61, 0x7a), .tail _ (.head _), small⟩

theorem caseBlind_isCaseIgnorable : CaseBlind isCaseIgnorable := by
  -- One pass over the table: every range lies beside the letters.
  have apart : ∀ r ∈ caseIgnorableRanges, r.2 < 0x41 ∨ 0x5a < r.1 ∧ r.2 < 0x61 ∨ 0x7a < r.1 := by
    decide +kernel
  refine caseBlind_of_letters (a := false) fun c letter => ?_
  rw [isCaseIgnorable, Bool.eq_false_iff]
  intro inside
  obtain ⟨r, mem, first, last⟩ := inRanges_iff.mp inside
  have range := isAlpha_iff.mp letter
  have beside := apart r mem
  omega

/-- Beyond ASCII no letter is made small, so that the characters of ASCII tell. -/
theorem caseBlind_of_ascii {α : Type} {p : Char → α}
    (h : ∀ n < 128, p (Char.ofNat n).toLower = p (Char.ofNat n)) : CaseBlind p := by
  intro c
  by_cases ascii : c.toNat < 128
  · exact forall_ascii (p := fun c => p c.toLower = p c) h ascii
  · rw [toLower_of_beyond_ascii (Nat.le_of_not_lt ascii)]

theorem caseBlind_toLower : CaseBlind Char.toLower := caseBlind_of_ascii (by decide)

theorem caseBlind_foldChar : CaseBlind foldChar := caseBlind_of_ascii (by decide)

theorem caseBlind_lowerChar : CaseBlind lowerChar := caseBlind_of_ascii (by decide)

/-- A character that is no letter of ASCII is made of no other one. -/
theorem toLower_eq_iff {c x : Char} (sign : x.isAlpha = false) : c.toLower = x ↔ c = x := by
  rcases toLower_eq_or_letter c with kept | ⟨letter, small⟩
  · rw [kept]
  · constructor
    · rintro rfl
      exact absurd small (by simp [sign])
    · rintro rfl
      exact absurd letter (by simp [sign])

@[simp] theorem asciiLower_nil : asciiLower [] = [] := rfl

@[simp] theorem asciiLower_cons (c : Char) (s : Text) : asciiLower (c :: s) = c.toLower :: asciiLower s := rfl

@[simp] theorem asciiLower_append (s t : Text) : asciiLower (s ++ t) = asciiLower s ++ asciiLower t :=
  List.map_append

@[simp] theorem length_asciiLower (s : Text) : (asciiLower s).length = s.length := List.length_map _

theorem asciiLower_idem (s : Text) : asciiLower (asciiLower s) = asciiLower s := by
  rw [asciiLower, asciiLower, List.map_map]
  exact List.map_congr_left fun c _ => caseBlind_toLower c

section Runs

variable {p : Char → Bool} (blind : CaseBlind p)

include blind

theorem takeWhile_asciiLower (s : Text) : (asciiLower s).takeWhile p = asciiLower (s.takeWhile p) := by
  have same : p ∘ Char.toLower = p := funext blind
  rw [asciiLower, List.takeWhile_map, same]
  rfl

theorem dropWhile_asciiLower (s : Text) : (asciiLower s).dropWhile p = asciiLower (s.dropWhile p) := by
  have same : p ∘ Char.toLower = p := funext blind
  rw [asciiLower, List.dropWhile_map, same]
  rfl

theorem all_asciiLower (s : Text) : (asciiLower s).all p = s.all p := by
  have same : p ∘ Char.toLower = p := funext blind
  rw [asciiLower, List.all_map, same]

theorem restsAfter_asciiLower (s : Text) : restsAfter p (asciiLower s) = (restsAfter p s).map asciiLower := by
  induction s with
  | nil => rfl
  | cons c s ih =>
    rw [asciiLower_cons, restsAfter, restsAfter, blind c, ih]
    split
    · rfl
    · rfl

end Runs

theorem reverse_asciiLower (s : Text) : (asciiLower s).reverse = asciiLower s.reverse := List.map_reverse.symm

theorem trimStart_asciiLower (s : Text) : trimStart (asciiLower s) = asciiLower (trimStart s) :=
  dropWhile_asciiLower caseBlind_isBlank s

theorem trim_asciiLower (s : Text) : trim (asciiLower s) = asciiLower (trim s) := by
  simp only [trim, trimEnd, trimStart_asciiLower, reverse_asciiLower,
    dropWhile_asciiLower caseBlind_isBlank]

theorem dropBlanks?_asciiLower (s : Text) : dropBlanks? (asciiLower s) = (dropBlanks? s).map asciiLower := by
  cases s with
  | nil => rfl
  | cons c s =>
    rw [asciiLower_cons, dropBlanks?, dropBlanks?, caseBlind_isBlank c, trimStart_asciiLower]
    split
    · rfl
    · rfl

theorem dropWord?_asciiLower (w s : Text) : dropWord? w (asciiLower s) = (dropWord? w s).map asciiLower := by
  induction w generalizing s with
  | nil => rfl
  | cons x w ih =>
    cases s with
    | nil => rfl
    | cons c s =>
      rw [asciiLower_cons, dropWord?, dropWord?, caseBlind_foldChar c, ih]
      split
      · rfl
      · rfl

theorem dropKeyword?_asciiLower (w s : Text) :
    dropKeyword? w (asciiLower s) = (dropKeyword? w s).map asciiLower := by
  rw [dropKeyword?, dropKeyword?, dropWord?_asciiLower]
  cases dropWord? (asciiLower w) s with
  | none => rfl
  | some rest =>
    cases rest with
    | nil => rfl
    | cons c rest =>
      rw [Option.map_some, asciiLower_cons]
      simp only [caseBlind_isWord c]
      split
      · rfl
      · rfl

theorem takeName?_asciiLower (isStart : Char → Bool) (s : Text) :
    takeName? isStart (asciiLower s) = (takeName? isStart s).map asciiLower := by
  cases s with
  | nil => rfl
  | cons c s =>
    have run := takeWhile_asciiLower (caseBlind_foldChar.comp isNameChar) (c :: s)
    rw [asciiLower_cons] at run ⊢
    rw [takeName?, takeName?, caseBlind_foldChar c, run]
    split
    · rfl
    · rfl

theorem atEnd_asciiLower (s : Text) : atEnd (asciiLower s) = atEnd s := by
  cases s with
  | nil => rfl
  | cons c s =>
    cases s with
    | nil =>
      have sign : (c.toLower = '\n') = (c = '\n') := propext (toLower_eq_iff rfl)
      simp [atEnd, sign]
    | cons d s => rfl

theorem leftmost_asciiLower {f : Text → Option Text} (blind : ∀ s, f (asciiLower s) = (f s).map asciiLower)
    (s : Text) : leftmost f (asciiLower s) = (leftmost f s).map asciiLower := by
  induction s with
  | nil => exact blind []
  | cons c s ih =>
    have here := blind (c :: s)
    rw [asciiLower_cons] at here ⊢
    rw [leftmost, leftmost, here, ih]
    cases f (c :: s) with
    | none => rfl
    | some answer => rfl

theorem consHead_asciiLower (c : Char) (lines : List Text) :
    consHead c.toLower (lines.map asciiLower) = (consHead c lines).map asciiLower := by
  cases lines with
  | nil => rfl
  | cons line lines => rfl

theorem splitBreaks_asciiLower (s : Text) : splitBreaks (asciiLower s) = (splitBreaks s).map asciiLower := by
  have breaks : CaseBlind fun c => (c = '\r' || c = '\n' : Bool) := by
    intro c
    simp only [toLower_eq_iff (rfl : '\r'.isAlpha = false), toLower_eq_iff (rfl : '\n'.isAlpha = false)]
  -- A carriage return that no line feed follows has none behind it when letters are made small.
  have alone : ∀ c s, (∀ rest, c = '\r' → s = '\n' :: rest → False) →
      ∀ rest, c.toLower = '\r' → asciiLower s = '\n' :: rest → False := by
    intro c s single rest carriage feed
    obtain ⟨d, behind, rfl, small, _⟩ := List.map_eq_cons_iff.mp feed
    rw [toLower_eq_iff rfl] at carriage small
    subst small
    exact single behind carriage rfl
  fun_induction splitBreaks s with
  | case1 => rfl
  | case2 s ih => exact congrArg ([] :: ·) ih
  | case3 c s single h ih =>
    rw [asciiLower_cons, splitBreaks, if_pos ((breaks c).trans h), ih]
    · rfl
    · exact alone c s single
  | case4 c s single h ih =>
    have other : ¬(c.toLower = '\r' || c.toLower = '\n' : Bool) = true :=
      fun small => h ((breaks c).symm.trans small)
    rw [asciiLower_cons, splitBreaks, if_neg other, ih, consHead_asciiLower]
    exact alone c s single

theorem dropMark_asciiLower (s : Text) : dropMark (asciiLower s) = asciiLower (dropMark s) := by
  cases s with
  | nil => rfl
  | cons c s =>
    have sign : (c.toLower = '\ufeff') = (c = '\ufeff') := propext (toLower_eq_iff rfl)
    simp only [asciiLower_cons, dropMark, sign]
    split
    · rfl
    · rfl

theorem editorLines_asciiLower (s : Text) : editorLines (asciiLower s) = (editorLines s).map asciiLower := by
  rw [editorLines, editorLines, dropMark_asciiLower, splitBreaks_asciiLower]

theorem casedAhead_asciiLower (s : Text) : casedAhead (asciiLower s) = casedAhead s := by
  rw [casedAhead, casedAhead, dropWhile_asciiLower caseBlind_isCaseIgnorable]
  cases s.dropWhile isCaseIgnorable with
  | nil => rfl
  | cons c s => exact caseBlind_isCased c

theorem lowerFrom_asciiLower (afterCased : Bool) (s : Text) :
    lowerFrom afterCased (asciiLower s) = lowerFrom afterCased s := by
  induction s generalizing afterCased with
  | nil => rfl
  | cons c s ih =>
    -- A sigma looks at the characters around it for their case alone, and letters of ASCII have one.
    have sigma : (c.toLower = '\u03a3') = (c = '\u03a3') := propext (toLower_eq_iff rfl)
    simp only [asciiLower_cons, lowerFrom, sigma, casedAhead_asciiLower, caseBlind_lowerChar c,
      caseBlind_isCaseIgnorable c, caseBlind_isCased c, ih]

/-- Names that differ in the case of letters of ASCII are looked up under one key. -/
theorem lower_asciiLower (s : Text) : lower (asciiLower s) = lower s := lowerFrom_asciiLower false s

end BasicWorkbench
