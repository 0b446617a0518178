import BasicWorkbench.Compilations
import BasicWorkbench.Proofs.TextMatches

namespace BasicWorkbench

/-- "error." or "errors." in letters of any case, behind blanks. -/
def SaysErrors (s : Text) : Prop :=
  ∃ blanks word rest, s = blanks ++ (word ++ '.' :: rest) ∧ blanks ≠ [] ∧
    (∀ c ∈ blanks, isBlank c = true) ∧
    (word.map foldChar = "error".toList ∨ word.map foldChar = "errors".toList)

theorem errorsAndStop?_isSome_iff {s : Text} : (errorsAndStop? s).isSome ↔ SaysErrors s := by
  constructor
  · intro h
    obtain ⟨rest, h⟩ := Option.isSome_iff_exists.mp h
    obtain ⟨blanks, word, parts⟩ := errorsAndStop?_eq_some h
    exact ⟨blanks, word, rest, parts⟩
  · intro h
    obtain ⟨blanks, word, rest, rfl, nonempty, all, singular | plural⟩ := h
    · have read : blanksAndWord? "error" (blanks ++ (word ++ '.' :: rest)) = some ('.' :: rest) :=
        (blanksAndWord?_eq_some_iff (by decide) (by decide)).mpr ⟨blanks, word, rfl, nonempty, all, singular⟩
      simp only [errorsAndStop?, read]
      rfl
    · have parts : word.map foldChar = "error".toList ++ "s".toList := plural
      obtain ⟨v, s', rfl, spelled, letter⟩ := List.map_eq_append_iff.mp parts
      have read : blanksAndWord? "error" (blanks ++ (v ++ (s' ++ '.' :: rest))) = some (s' ++ '.' :: rest) :=
        (blanksAndWord?_eq_some_iff (by decide) (by decide)).mpr ⟨blanks, v, rfl, nonempty, all, spelled⟩
      have last : dropWord? "s" (s' ++ '.' :: rest) = some ('.' :: rest) :=
        dropWord?_eq_some_iff.mpr ⟨s', rfl, letter⟩
      simp only [errorsAndStop?, List.append_assoc, read]
      change (dropWord? "." ((dropWord? "s" (s' ++ '.' :: rest)).getD _)).isSome
      rw [last]
      rfl

theorem startsZeroErrors_iff {s : Text} :
    startsZeroErrors s = true ↔
      ∃ blanks rest, s = ':' :: (blanks ++ '0' :: rest) ∧ blanks ≠ [] ∧
        (∀ c ∈ blanks, isBlank c = true) ∧ SaysErrors rest := by
  unfold startsZeroErrors
  constructor
  · intro h
    obtain ⟨_, h⟩ := Option.isSome_iff_exists.mp h
    obtain ⟨t, colon, h⟩ := Option.bind_eq_some_iff.mp h
    obtain ⟨rest, ht, hr⟩ := Option.bind_eq_some_iff.mp h
    obtain ⟨blanks, v, rfl, given, all, zero⟩ := (blanksAndWord?_eq_some_iff (by decide) (by decide)).mp ht
    obtain rfl : v = ['0'] := map_foldChar_of_sign zero rfl
    exact ⟨blanks, rest, (dropWord?_sign rfl rfl).mp colon, given, all,
      errorsAndStop?_isSome_iff.mp (Option.isSome_of_mem hr)⟩
  · intro h
    obtain ⟨blanks, rest, rfl, given, all, errors⟩ := h
    have zero : blanksAndWord? "0" (blanks ++ '0' :: rest) = some rest :=
      (blanksAndWord?_eq_some_iff (by decide) (by decide)).mpr ⟨blanks, ['0'], rfl, given, all, rfl⟩
    change ((blanksAndWord? "0" (blanks ++ '0' :: rest)).bind errorsAndStop?).isSome = true
    rw [zero]
    exact errorsAndStop?_isSome_iff.mpr errors

/-- No summary of zero errors runs into the text: a blank comes first, and behind its blanks neither the
zero nor the word of a summary. -/
structure Separates (t : Text) : Prop where
  blank : ∃ b r, t = b :: r ∧ isBlank b = true
  noZero : dropWord? "0" (trimStart t) = none
  noError : dropWord? "error" (trimStart t) = none

namespace Separates

variable {t : Text} (separates : Separates t)

include separates

theorem errorsAndStop?_append (s : Text) : errorsAndStop? (s ++ t) = (errorsAndStop? s).map (· ++ t) := by
  obtain ⟨⟨b, r, rfl, blank⟩, _, noError⟩ := separates
  unfold errorsAndStop?
  rw [blanksAndWord?_append_blank (by decide) (by decide) blank noError]
  cases blanksAndWord? "error" s with
  | none => rfl
  | some s =>
    have plural := dropWord?_append_blank (w := "s") (t := r) (by decide) blank s
    have stop := dropWord?_append_blank (w := ".") (t := r) (by decide) blank
    change dropWord? "." ((dropWord? "s" (s ++ b :: r)).getD (s ++ b :: r)) =
      (dropWord? "." ((dropWord? "s" s).getD s)).map (· ++ b :: r)
    rw [plural]
    cases dropWord? "s" s with
    | none => exact stop s
    | some s => exact stop s

theorem startsZeroErrors_append (s : Text) : startsZeroErrors (s ++ t) = startsZeroErrors s := by
  have tail := separates.errorsAndStop?_append
  obtain ⟨⟨b, r, rfl, blank⟩, noZero, _⟩ := separates
  have colon := dropWord?_append_blank (w := ":") (t := r) (by decide) blank s
  have zero := blanksAndWord?_append_blank (by decide) (by decide) blank noZero
  unfold startsZeroErrors
  rw [colon]
  cases dropWord? ":" s with
  | none => rfl
  | some s =>
    change ((blanksAndWord? "0" (s ++ b :: r)).bind errorsAndStop?).isSome =
      ((blanksAndWord? "0" s).bind errorsAndStop?).isSome
    rw [zero s]
    cases blanksAndWord? "0" s with
    | none => rfl
    | some s =>
      change (errorsAndStop? (s ++ b :: r)).isSome = (errorsAndStop? s).isSome
      rw [tail, Option.isSome_map]

/-- A summary is on either side of what separates. -/
theorem hasZeroSummary_append (s : Text) :
    hasZeroSummary (s ++ t) = (hasZeroSummary s || hasZeroSummary t) := by
  induction s with
  | nil => rfl
  | cons c s ih =>
    rw [List.cons_append, hasZeroSummary, hasZeroSummary, ih, separates.startsZeroErrors_append,
      Bool.or_assoc]

end Separates

/-- "0 errors." at the start, behind blanks or none, and no name in front of it. -/
def StartsNamelessZero (s : Text) : Prop :=
  ∃ blanks rest, s = blanks ++ '0' :: rest ∧ (∀ c ∈ blanks, isBlank c = true) ∧ SaysErrors rest

/-- The colon of the label stands at the end of its line, so that what follows can be its count. -/
theorem startsZeroErrors_behind_label {s : Text} :
    startsZeroErrors (':' :: '\n' :: s) = true ↔ StartsNamelessZero s := by
  rw [startsZeroErrors_iff]
  constructor
  · intro h
    obtain ⟨blanks, rest, eq, given, all, errors⟩ := h
    obtain ⟨c, blanks, rfl⟩ := List.exists_cons_of_ne_nil given
    obtain ⟨_, eq⟩ := List.cons.inj eq
    obtain ⟨rfl, rfl⟩ := List.cons.inj eq
    exact ⟨blanks, rest, rfl, fun d hd => all d (List.mem_cons_of_mem _ hd), errors⟩
  · intro h
    obtain ⟨blanks, rest, rfl, all, errors⟩ := h
    exact ⟨'\n' :: blanks, rest, rfl, by simp, List.forall_mem_cons.mpr ⟨by decide, all⟩, errors⟩

theorem separates_label (stderr : Text) : Separates (("\nSTDERR:\n" : Text) ++ stderr) :=
  ⟨⟨'\n', ("STDERR:\n" : Text) ++ stderr, rfl, by decide⟩, rfl, rfl⟩

/-- Two streams shown together have a summary of zero errors exactly if one of them has, or if the second
starts with one that lacks its name: then the label between them is taken for the name. -/
theorem joined_summary_iff (stdout stderr : Text) :
    hasZeroSummary (joinStreams stdout stderr) = true ↔
      hasZeroSummary stdout = true ∨ hasZeroSummary stderr = true ∨ StartsNamelessZero stderr := by
  cases stderr with
  | nil =>
    have nothing : ¬StartsNamelessZero [] := by simp [StartsNamelessZero]
    simp [joinStreams, hasZeroSummary, nothing]
  | cons c stderr =>
    have joined : joinStreams stdout (c :: stderr) = stdout ++ (("\nSTDERR:\n" : Text) ++ c :: stderr) :=
      List.append_assoc _ _ _
    have label : hasZeroSummary (("\nSTDERR:\n" : Text) ++ c :: stderr) =
        (startsZeroErrors (':' :: '\n' :: c :: stderr) || hasZeroSummary (c :: stderr)) := rfl
    rw [joined, (separates_label _).hasZeroSummary_append, label, Bool.or_eq_true, Bool.or_eq_true,
      startsZeroErrors_behind_label]
    rw [or_comm (a := StartsNamelessZero _)]

/-- Neither stream has a summary of zero errors, and what is shown has one. -/
theorem joined_summary_of_label :
    hasZeroSummary (joinStreams [] "0 errors.") = true ∧ hasZeroSummary [] = false ∧
      hasZeroSummary "0 errors." = false := by
  have nameless : StartsNamelessZero "0 errors." :=
    ⟨[], " errors.", rfl, by simp, " ", "errors", [], rfl, by simp, forall_mem_of_all (by decide), .inr rfl⟩
  exact ⟨(joined_summary_iff _ _).mpr (.inr (.inr nameless)), rfl, rfl⟩

end BasicWorkbench
