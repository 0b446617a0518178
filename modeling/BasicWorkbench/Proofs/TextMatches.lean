import Mathlib.Data.List.TakeWhile
import BasicWorkbench.ReportShapes

namespace BasicWorkbench

theorem forall_ascii {p : Char → Prop} (h : ∀ n < 128, p (Char.ofNat n)) {c : Char}
    (ascii : c.toNat < 128) : p c := by
  have here := h c.toNat ascii
  rwa [Char.ofNat_toNat] at here

/-- What holds of all characters of a text can be computed. -/
theorem forall_mem_of_all {p : Char → Prop} [DecidablePred p] {s : Text} (h : s.all (p ·) = true) :
    ∀ c ∈ s, p c := by
  simpa using h

theorem toLower_of_beyond_ascii {c : Char} (h : 128 ≤ c.toNat) : c.toLower = c := by
  unfold Char.toLower
  rw [dif_neg]
  intro capital
  have bound : c.toNat ≤ 90 := UInt32.le_iff_toNat_le.mp capital.2
  omega

theorem foldChar_of_beyond_ascii {c : Char} (h : 128 ≤ c.toNat) :
    foldChar c = c ∨ isBlank c = false ∧ (foldChar c = 'i' ∨ foldChar c = 's' ∨ foldChar c = 'k') := by
  unfold foldChar
  split
  next dotted =>
    simp only [Bool.or_eq_true, decide_eq_true_eq] at dotted
    rcases dotted with rfl | rfl
    · exact .inr ⟨by decide, .inl rfl⟩
    · exact .inr ⟨by decide, .inl rfl⟩
  next =>
    split
    next long =>
      subst long
      exact .inr ⟨by decide, .inr (.inl rfl)⟩
    next =>
      split
      next kelvin =>
        subst kelvin
        exact .inr ⟨by decide, .inr (.inr rfl)⟩
      next => exact .inl (toLower_of_beyond_ascii h)

/-- Case makes no blank of another character and the other way round. -/
theorem isBlank_foldChar (c : Char) : isBlank (foldChar c) = isBlank c := by
  by_cases ascii : c.toNat < 128
  · exact forall_ascii (p := fun c => isBlank (foldChar c) = isBlank c) (by decide) ascii
  · rcases foldChar_of_beyond_ascii (Nat.le_of_not_lt ascii) with kept | ⟨solid, i | s | k⟩
    · rw [kept]
    · rw [i, solid]; decide
    · rw [s, solid]; decide
    · rw [k, solid]; decide

theorem foldChar_eq_or_letter (c : Char) : foldChar c = c ∨ (foldChar c).isAlpha = true := by
  by_cases ascii : c.toNat < 128
  · exact forall_ascii (p := fun c => foldChar c = c ∨ (foldChar c).isAlpha = true) (by decide) ascii
  · rcases foldChar_of_beyond_ascii (Nat.le_of_not_lt ascii) with kept | ⟨_, i | s | k⟩
    · exact .inl kept
    · exact .inr (by rw [i]; decide)
    · exact .inr (by rw [s]; decide)
    · exact .inr (by rw [k]; decide)

/-- A word at the start is a spelling of it in letters of any case. -/
theorem dropWord?_eq_some_iff {w s r : Text} :
    dropWord? w s = some r ↔ ∃ v, s = v ++ r ∧ v.map foldChar = w := by
  induction w generalizing s with
  | nil => simp [dropWord?]
  | cons x w ih =>
    cases s with
    | nil => simp [dropWord?]
    | cons c s =>
      simp only [dropWord?]
      split
      next same =>
        rw [ih]
        constructor
        · intro h
          obtain ⟨v, rfl, hv⟩ := h
          exact ⟨c :: v, rfl, by simp [same, hv]⟩
        · intro h
          obtain ⟨v, eq, hv⟩ := h
          obtain ⟨d, v, rfl, _, rest⟩ := List.map_eq_cons_iff.mp hv
          obtain ⟨_, rfl⟩ := List.cons.inj eq
          exact ⟨v, rfl, rest⟩
      next differs =>
        constructor
        · intro h
          simp at h
        · intro h
          obtain ⟨v, eq, hv⟩ := h
          obtain ⟨d, v, rfl, same, _⟩ := List.map_eq_cons_iff.mp hv
          obtain ⟨rfl, _⟩ := List.cons.inj eq
          exact absurd same differs

theorem dropWord?_append_blank {w t : Text} {b : Char} (solid : w.all (!isBlank ·) = true)
    (blank : isBlank b = true) (s : Text) :
    dropWord? w (s ++ b :: t) = (dropWord? w s).map (· ++ b :: t) := by
  induction w generalizing s with
  | nil => rfl
  | cons x w ih =>
    cases s with
    | nil =>
      have differs : foldChar b ≠ x := by
        rintro rfl
        simp [isBlank_foldChar, blank] at solid
      simp [dropWord?, differs]
    | cons c s =>
      simp only [List.cons_append, dropWord?]
      split
      · exact ih (Bool.and_eq_true_iff.mp solid).2 s
      · rfl

theorem trimStart_append (s t : Text) :
    trimStart (s ++ t) = if (trimStart s).isEmpty then trimStart t else trimStart s ++ t :=
  List.dropWhile_append

theorem trimStart_of_blanks {blanks : Text} (h : ∀ c ∈ blanks, isBlank c = true) (s : Text) :
    trimStart (blanks ++ s) = trimStart s := by
  have gone : trimStart blanks = [] := List.dropWhile_eq_nil_iff.mpr h
  rw [trimStart_append, gone]
  rfl

theorem trimStart_trimStart (s : Text) : trimStart (trimStart s) = trimStart s := by
  induction s with
  | nil => rfl
  | cons c s ih =>
    cases blank : isBlank c with
    | true => simpa [trimStart, blank] using ih
    | false => rw [trimStart_of_not_blank blank, trimStart_of_not_blank blank]

theorem trimStart_eq_self_iff {s : Text} :
    trimStart s = s ↔ ∀ c, s.head? = some c → isBlank c = false := by
  cases s with
  | nil => simp [trimStart]
  | cons c s => simp [trimStart, List.dropWhile_eq_self_iff]

theorem span_append {p : Char → Bool} {front rest : Text} (all : ∀ c ∈ front, p c = true)
    (stops : rest.takeWhile p = []) :
    (front ++ rest).takeWhile p = front ∧ (front ++ rest).dropWhile p = rest := by
  have remain : rest.dropWhile p = rest := by
    have parts := rest.takeWhile_append_dropWhile (p := p)
    rwa [stops] at parts
  rw [List.takeWhile_append_of_pos all, List.dropWhile_append_of_pos all, stops, remain, List.append_nil]
  exact ⟨rfl, rfl⟩

theorem exists_indent (s : Text) : ∃ indent, s = indent ++ trimStart s ∧ ∀ c ∈ indent, isBlank c = true :=
  ⟨s.takeWhile isBlank, List.takeWhile_append_dropWhile.symm, fun _ => List.mem_takeWhile_imp⟩

theorem dropBlanks?_eq_some_iff {s r : Text} :
    dropBlanks? s = some r ↔
      ∃ blanks, blanks ≠ [] ∧ (∀ c ∈ blanks, isBlank c = true) ∧ s = blanks ++ r ∧ trimStart r = r := by
  constructor
  · intro h
    cases s with
    | nil => simp [dropBlanks?] at h
    | cons c s =>
      simp only [dropBlanks?] at h
      split at h
      next blank =>
        obtain rfl : trimStart s = r := Option.some.inj h
        refine ⟨c :: s.takeWhile isBlank, by simp, ?_, ?_, trimStart_trimStart s⟩
        · intro d hd
          rcases List.mem_cons.mp hd with rfl | hd
          · exact blank
          · exact List.mem_takeWhile_imp hd
        · exact congrArg (c :: ·) List.takeWhile_append_dropWhile.symm
      next => simp at h
  · intro h
    obtain ⟨blanks, nonempty, all, rfl, start⟩ := h
    cases blanks with
    | nil => exact absurd rfl nonempty
    | cons c blanks =>
      have skipped := trimStart_of_blanks (fun d hd => all d (List.mem_cons_of_mem c hd)) r
      simp [dropBlanks?, all c List.mem_cons_self, skipped, start]

theorem dropBlanks?_append {s : Text} (start : trimStart s ≠ []) (t : Text) :
    dropBlanks? (s ++ t) = (dropBlanks? s).map (· ++ t) := by
  cases s with
  | nil => exact absurd rfl start
  | cons c s =>
    cases blank : isBlank c with
    | false => simp [dropBlanks?, blank]
    | true =>
      have start' : (trimStart s).isEmpty = false := by simpa [trimStart, blank] using start
      have joined : trimStart (s ++ t) = trimStart s ++ t := by simp [trimStart_append, start']
      simp [dropBlanks?, blank, joined]

/-- What reads behind blanks, but not over a blank, reads the same where a blank follows, unless it reads what
comes next. -/
theorem dropBlanks?_bind_append {α : Type} {read : Text → Option α} {extend : α → α} {t : Text} {b : Char}
    (blank : isBlank b = true) (other : read (trimStart (b :: t)) = none) (empty : read [] = none)
    (stops : ∀ s, read (s ++ b :: t) = (read s).map extend) (s : Text) :
    (dropBlanks? (s ++ b :: t)).bind read = ((dropBlanks? s).bind read).map extend := by
  by_cases start : trimStart s = []
  · have all : ∀ c ∈ s, isBlank c = true := List.dropWhile_eq_nil_iff.mp start
    have skipped : dropBlanks? (s ++ b :: t) = some (trimStart (b :: t)) := by
      refine dropBlanks?_eq_some_iff.mpr ⟨s ++ b :: t.takeWhile isBlank, by simp, ?_, ?_, trimStart_trimStart _⟩
      · intro c hc
        rcases List.mem_append.mp hc with front | hc
        · exact all c front
        · rcases List.mem_cons.mp hc with rfl | rest
          · exact blank
          · exact List.mem_takeWhile_imp rest
      · simp [trimStart, blank]
    have nothing : (dropBlanks? s).bind read = none := by
      cases s with
      | nil => rfl
      | cons c s =>
        have rest : trimStart s = [] := by simpa [trimStart, all c List.mem_cons_self] using start
        simp [dropBlanks?, all c List.mem_cons_self, rest, empty]
    rw [skipped, nothing]
    exact other
  · rw [dropBlanks?_append start]
    cases dropBlanks? s with
    | none => rfl
    | some r => exact stops r

theorem map_foldChar_of_sign {v : Text} {x : Char} (spelled : v.map foldChar = [x])
    (sign : x.isAlpha = false) : v = [x] := by
  obtain ⟨c, rest, rfl, same, none⟩ := List.map_eq_cons_iff.mp spelled
  obtain rfl := List.map_eq_nil_iff.mp none
  rcases foldChar_eq_or_letter c with kept | letter
  · rw [← same, kept]
  · simp [same, sign] at letter

theorem dropWord?_sign {x : Char} {s r : Text} (sign : x.isAlpha = false) (same : foldChar x = x) :
    dropWord? [x] s = some r ↔ s = x :: r := by
  rw [dropWord?_eq_some_iff]
  constructor
  · intro h
    obtain ⟨v, rfl, spelled⟩ := h
    rw [map_foldChar_of_sign spelled sign]
    rfl
  · rintro rfl
    exact ⟨[x], rfl, by simp [same]⟩

section Words

variable {w : Text} (nonempty : w ≠ []) (solid : w.all (!isBlank ·) = true)

include nonempty solid

theorem trimStart_of_spelling {v : Text} (spelled : v.map foldChar = w) (s : Text) :
    trimStart (v ++ s) = v ++ s := by
  cases v with
  | nil => exact absurd spelled.symm nonempty
  | cons c v =>
    have first : isBlank c = false := by
      rw [← spelled, List.map_cons, List.all_cons, isBlank_foldChar, Bool.and_eq_true] at solid
      simpa using solid.1
    exact trimStart_of_not_blank first _

theorem blanksAndWord?_eq_some_iff {s r : Text} :
    blanksAndWord? w s = some r ↔
      ∃ blanks v, s = blanks ++ (v ++ r) ∧ blanks ≠ [] ∧ (∀ c ∈ blanks, isBlank c = true) ∧
        v.map foldChar = w := by
  unfold blanksAndWord?
  rw [Option.bind_eq_some_iff]
  constructor
  · intro h
    obtain ⟨t, ht, hr⟩ := h
    obtain ⟨blanks, given, all, rfl, _⟩ := dropBlanks?_eq_some_iff.mp ht
    obtain ⟨v, rfl, spelled⟩ := dropWord?_eq_some_iff.mp hr
    exact ⟨blanks, v, rfl, given, all, spelled⟩
  · intro h
    obtain ⟨blanks, v, rfl, given, all, spelled⟩ := h
    have start := trimStart_of_spelling nonempty solid spelled r
    exact ⟨v ++ r, dropBlanks?_eq_some_iff.mpr ⟨blanks, given, all, rfl, start⟩,
      dropWord?_eq_some_iff.mpr ⟨v, rfl, spelled⟩⟩

/-- Nothing is found behind blanks that was not found in front of them, unless it comes next. -/
theorem blanksAndWord?_append_blank {t : Text} {b : Char} (blank : isBlank b = true)
    (other : dropWord? w (trimStart (b :: t)) = none) (s : Text) :
    blanksAndWord? w (s ++ b :: t) = (blanksAndWord? w s).map (· ++ b :: t) := by
  have empty : dropWord? w [] = none := by
    obtain ⟨x, v, rfl⟩ := List.exists_cons_of_ne_nil nonempty
    rfl
  exact dropBlanks?_bind_append blank other empty (dropWord?_append_blank solid blank) s

end Words

theorem errorsAndStop?_eq_some {s rest : Text} (h : errorsAndStop? s = some rest) :
    ∃ blanks word, s = blanks ++ (word ++ '.' :: rest) ∧ blanks ≠ [] ∧
      (∀ c ∈ blanks, isBlank c = true) ∧
      (word.map foldChar = "error".toList ∨ word.map foldChar = "errors".toList) := by
  obtain ⟨t, ht, hr⟩ := Option.bind_eq_some_iff.mp h
  obtain ⟨blanks, v, rfl, nonempty, all, spelled⟩ :=
    (blanksAndWord?_eq_some_iff (by decide) (by decide)).mp ht
  have stop : (dropWord? "s" t).getD t = '.' :: rest := (dropWord?_sign rfl rfl).mp hr
  cases plural : dropWord? "s" t with
  | none =>
    rw [plural, Option.getD_none] at stop
    exact ⟨blanks, v, by rw [stop], nonempty, all, .inl spelled⟩
  | some t' =>
    rw [plural, Option.getD_some] at stop
    obtain ⟨s', rfl, letter⟩ := dropWord?_eq_some_iff.mp plural
    refine ⟨blanks, v ++ s', by simp [stop], nonempty, all, .inr ?_⟩
    rw [List.map_append, spelled, letter]
    rfl

theorem takeCount?_spec {s count rest : Text} (h : takeCount? s = some (count, rest)) :
    s = count ++ rest ∧ ∀ c ∈ count, c.isDigit = true := by
  unfold takeCount? at h
  split at h
  next => simp at h
  next c digits taken =>
    split at h
    next => simp at h
    next =>
      obtain ⟨rfl, rfl⟩ := Prod.mk.inj (Option.some.inj h)
      rw [← taken]
      exact ⟨List.takeWhile_append_dropWhile.symm, fun d hd => List.mem_takeWhile_imp hd⟩

/-- The count of a summary stands between a colon and the word, and nothing but a break comes after. -/
theorem errorCount?_eq_some {s count : Text} (h : errorCount? s = some count) :
    ∃ blanks blanks' word rest, s = ':' :: (blanks ++ (count ++ (blanks' ++ (word ++ '.' :: rest)))) ∧
      (∀ c ∈ blanks, isBlank c = true) ∧ (∀ c ∈ count, c.isDigit = true) ∧
      (∀ c ∈ blanks', isBlank c = true) ∧
      (word.map foldChar = "error".toList ∨ word.map foldChar = "errors".toList) ∧ atEnd rest = true := by
  obtain ⟨t, colon, h⟩ := Option.bind_eq_some_iff.mp h
  obtain ⟨u, skipped, h⟩ := Option.bind_eq_some_iff.mp h
  obtain ⟨⟨digits, v⟩, taken, h⟩ := Option.bind_eq_some_iff.mp h
  obtain ⟨rest, stop, last⟩ := Option.bind_eq_some_iff.mp h
  have ends : atEnd rest = true := by
    by_contra more
    rw [if_neg more] at last
    contradiction
  have same : digits = count := by
    rw [if_pos ends] at last
    exact Option.some.inj last
  obtain ⟨blanks, _, all, rfl, _⟩ := dropBlanks?_eq_some_iff.mp skipped
  obtain ⟨rfl, numeric⟩ := takeCount?_spec taken
  obtain ⟨blanks', word, rfl, _, all', spelled⟩ := errorsAndStop?_eq_some stop
  have start := (dropWord?_sign rfl rfl).mp colon
  rw [same] at start numeric
  exact ⟨blanks, blanks', word, rest, start, all, numeric, all', spelled, ends⟩

end BasicWorkbench
