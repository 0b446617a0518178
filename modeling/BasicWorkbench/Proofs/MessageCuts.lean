import BasicWorkbench.Proofs.WrittenLines

namespace BasicWorkbench

def messageFrom? (finish : Text → Bool) (rest : Text) : Option Text :=
  match rest.takeWhile inLine with
  | [] => none
  | message => if finish (rest.dropWhile inLine) then some message else none

theorem messageAfterBlanks?_eq_findSome? (finish : Text → Bool) (s : Text) :
    messageAfterBlanks? finish s = (restsAfter isBlank s).reverse.findSome? (messageFrom? finish) := by
  rfl

theorem messageFrom?_of_line {finish : Text → Bool} (stops : finish [] = true) {s : Text} (nonempty : s ≠ [])
    (inside : ∀ c ∈ s, inLine c = true) : messageFrom? finish s = some s := by
  unfold messageFrom?
  rw [List.takeWhile_eq_self_iff.mpr inside, List.dropWhile_eq_nil_iff.mpr inside, stops]
  obtain ⟨c, s, rfl⟩ := List.exists_cons_of_ne_nil nonempty
  rfl

/-- Where a text holds no break and does not end with its blanks, the message behind these is all that follows. -/
theorem messageAfterBlanks?_eq {finish : Text → Bool} (stops : finish [] = true) {s : Text}
    (inside : ∀ c ∈ s, inLine c = true) (filled : s ≠ [] → trimStart s ≠ []) :
    messageAfterBlanks? finish s = dropBlanks? s := by
  rw [messageAfterBlanks?_eq_findSome?]
  induction s with
  | nil => rfl
  | cons c s ih =>
    cases blank : isBlank c with
    | false => simp [restsAfter, dropBlanks?, blank]
    | true =>
      have rest : trimStart s ≠ [] := by simpa [trimStart, blank] using filled
      have nonempty : s ≠ [] := by
        rintro rfl
        exact rest rfl
      have inside' : ∀ d ∈ s, inLine d = true := fun d hd => inside d (List.mem_cons_of_mem c hd)
      rw [restsAfter, if_pos blank, List.reverse_cons, List.findSome?_append, ih inside' fun _ => rest,
        List.findSome?_singleton, messageFrom?_of_line stops nonempty inside', dropBlanks?, if_pos blank]
      obtain ⟨d, s, rfl⟩ := List.exists_cons_of_ne_nil nonempty
      cases blank' : isBlank d with
      | false => simp [dropBlanks?, blank', trimStart]
      | true => simp [dropBlanks?, blank', trimStart]

/-- A line that is trimmed goes on behind all of its blanks. -/
theorem FillsLine.messageAfterBlanks?_eq {line s : Text} (fills : FillsLine line) (within : s <:+ line)
    {finish : Text → Bool} (stops : finish [] = true) : messageAfterBlanks? finish s = dropBlanks? s :=
  BasicWorkbench.messageAfterBlanks?_eq stops (fun c hc => fills.isMessage.inside c (within.subset hc))
    fun nonempty => trimStart_ne_nil_of_suffix fills.trimmed nonempty within

theorem takeDigits?_eq_some {s digits r : Text} (h : takeDigits? s = some (digits, r)) :
    s = digits ++ r ∧ digits ≠ [] ∧ ∀ d ∈ digits, isDigit d = true := by
  unfold takeDigits? at h
  split at h
  next => simp at h
  next nonempty =>
    obtain ⟨rfl, rfl⟩ := Prod.mk.inj (Option.some.inj h)
    exact ⟨List.takeWhile_append_dropWhile.symm, nonempty, fun d => List.mem_takeWhile_imp⟩

theorem blanksAndDigits?_eq_some {s digits r : Text} (h : blanksAndDigits? s = some (digits, r)) :
    ∃ gap, s = gap ++ (digits ++ r) ∧ IsGap gap ∧ digits ≠ [] ∧ ∀ d ∈ digits, isDigit d = true := by
  obtain ⟨t, skipped, taken⟩ := Option.bind_eq_some_iff.mp h
  obtain ⟨gap, nonempty, blank, rfl, _⟩ := dropBlanks?_eq_some_iff.mp skipped
  obtain ⟨rfl, numeric⟩ := takeDigits?_eq_some taken
  exact ⟨gap, rfl, ⟨nonempty, blank⟩, numeric⟩

theorem spelled_error {v : Text} (spelled : v.map foldChar = "error:".toList) :
    ∃ letters, v = letters ++ [':'] ∧ letters.map foldChar = "error".toList := by
  have parts : v.map foldChar = "error".toList ++ [':'] := spelled
  obtain ⟨letters, sign, rfl, letters', sign'⟩ := List.map_eq_append_iff.mp parts
  obtain rfl : sign = [':'] := map_foldChar_of_sign sign' rfl
  exact ⟨letters, rfl, letters'⟩

theorem FillsLine.of_suffix {line s : Text} (fills : FillsLine line) (within : s <:+ line) (nonempty : s ≠ [])
    (start : trimStart s = s) : FillsLine s where
  nonempty := nonempty
  trimmed := by
    obtain ⟨front, rfl⟩ := within
    refine trim_eq_self_iff.mpr ⟨trimStart_eq_self_iff.mp start, fun c hc => ?_⟩
    exact (trim_eq_self_iff.mp fills.trimmed).2 c (by rw [List.getLast?_append, hc]; rfl)
  unbroken := fun c hc => fills.unbroken c (within.subset hc)

theorem exists_leading_blanks (s : Text) :
    ∃ gap rest, s = gap ++ rest ∧ (∀ c ∈ gap, isBlank c = true) ∧ trimStart rest = rest := by
  obtain ⟨indent, parts, blank⟩ := exists_indent s
  exact ⟨indent, trimStart s, parts, blank, trimStart_trimStart s⟩

theorem leading_blanks_append {gap rest : Text} (blank : ∀ c ∈ gap, isBlank c = true)
    (start : trimStart rest = rest) : (gap ++ rest).takeWhile isBlank = gap ∧ trimStart (gap ++ rest) = rest := by
  have parts : rest.takeWhile isBlank ++ trimStart rest = rest := List.takeWhile_append_dropWhile
  rw [start] at parts
  exact span_append blank (List.self_eq_append_left.mp parts.symm)

/-- The first rest that is found has no longer one in which something is found. -/
theorem findSome?_restsAfter_eq_some {α : Type} {p : Char → Bool} {f : Text → Option α} {s : Text} {a : α}
    (h : (restsAfter p s).findSome? f = some a) :
    ∃ front rest, s = front ++ rest ∧ front ≠ [] ∧ f rest = some a ∧
      ∀ u t, u ≠ [] → t ≠ [] → front = u ++ t → f (t ++ rest) = none := by
  induction s with
  | nil => simp [restsAfter] at h
  | cons c s ih =>
    unfold restsAfter at h
    split at h
    next =>
      cases here : f s with
      | some b =>
        rw [List.findSome?_cons, here] at h
        refine ⟨[c], s, rfl, by simp, here.trans h, fun u t hu ht same => ?_⟩
        have lengths := congrArg List.length same
        have some' := List.length_pos_iff.mpr hu
        have some'' := List.length_pos_iff.mpr ht
        simp only [List.length_append, List.length_singleton] at lengths
        omega
      | none =>
        rw [List.findSome?_cons, here] at h
        obtain ⟨front, rest, rfl, _, found, unseen⟩ := ih h
        refine ⟨c :: front, rest, rfl, by simp, found, fun u t hu ht same => ?_⟩
        obtain ⟨d, u, rfl⟩ := List.exists_cons_of_ne_nil hu
        obtain ⟨_, rfl⟩ := List.cons.inj same
        cases u with
        | nil => exact here
        | cons e u => exact unseen (e :: u) t (by simp) ht rfl
    next => simp at h

/-- The last rest that is found has no shorter one in which something is found. -/
theorem findSome?_reverse_restsAfter_eq_some {α : Type} {p : Char → Bool} {f : Text → Option α} {s : Text} {a : α}
    (h : (restsAfter p s).reverse.findSome? f = some a) :
    ∃ front rest, s = front ++ rest ∧ front ≠ [] ∧ (∀ c ∈ front, p c = true) ∧ f rest = some a ∧
      ∀ t v, t ≠ [] → (∀ c ∈ t, p c = true) → rest = t ++ v → f v = none := by
  induction s with
  | nil => simp [restsAfter] at h
  | cons c s ih =>
    unfold restsAfter at h
    split at h
    next inside =>
      rw [List.reverse_cons, List.findSome?_append, List.findSome?_singleton] at h
      rcases Option.or_eq_some_iff.mp h with later | ⟨unseen, here⟩
      · obtain ⟨front, rest, rfl, _, all, found, unseen⟩ := ih later
        exact ⟨c :: front, rest, rfl, by simp, List.forall_mem_cons.mpr ⟨inside, all⟩, found, unseen⟩
      · refine ⟨[c], s, rfl, by simp, by simpa using inside, here, fun t v ht all same => ?_⟩
        rw [List.findSome?_eq_none_iff] at unseen
        exact unseen v (List.mem_reverse.mpr (mem_restsAfter.mpr ⟨t, ht, same, all⟩))
    next => simp at h

/-- Where the first start that fits gives nothing and neither does any behind it, nothing is found. -/
theorem leftmost_bind {α β : Type} {g : Text → Option α} {h : α → Option β} {line : Text}
    (first : ∀ s a, s <:+ line → g s = some a → h a = none →
      ∀ t b, t <:+ s → t ≠ s → g t = some b → h b = none) :
    leftmost (fun s => (g s).bind h) line = (leftmost g line).bind h := by
  induction line with
  | nil => rfl
  | cons c line ih =>
    cases here : g (c :: line) with
    | none =>
      simp only [leftmost, here, Option.bind_none]
      exact ih fun s a within => first s a (within.trans (List.suffix_cons c line))
    | some a =>
      cases found : h a with
      | some b => simp [leftmost, here, found]
      | none =>
        have later := first (c :: line) a List.suffix_rfl here found
        simp only [leftmost, here, Option.bind_some, found]
        rw [← Option.not_isSome_iff_eq_none]
        intro some'
        obtain ⟨b, seen⟩ := Option.isSome_iff_exists.mp some'
        obtain ⟨t, within, seen⟩ := exists_suffix_of_leftmost seen
        obtain ⟨d, start, found⟩ := Option.bind_eq_some_iff.mp seen
        have other : t ≠ c :: line := by
          rintro rfl
          have bound := within.length_le
          rw [List.length_cons] at bound
          omega
        rw [later t d (within.trans (List.suffix_cons c line)) other start] at found
        contradiction

theorem dropBlanks?_isSome_of_atLine {s : Text} (read : (atLine? s).isSome = true) :
    (dropBlanks? s).isSome = true := by
  obtain ⟨found, read⟩ := Option.isSome_iff_exists.mp read
  obtain ⟨t, word, _⟩ := Option.bind_eq_some_iff.mp read
  obtain ⟨r, skipped, _⟩ := Option.bind_eq_some_iff.mp word
  exact Option.isSome_of_mem skipped

/-- More blanks in front make no difference to the mention of a line. -/
theorem atLine?_behind_blanks {gap s : Text} (blank : ∀ c ∈ gap, isBlank c = true)
    (starts : (dropBlanks? s).isSome = true) : atLine? (gap ++ s) = atLine? s := by
  obtain ⟨r, skipped⟩ := Option.isSome_iff_exists.mp starts
  obtain ⟨gap', given, blank', rfl, start⟩ := dropBlanks?_eq_some_iff.mp skipped
  have skipped' : dropBlanks? (gap ++ (gap' ++ r)) = some r := by
    refine dropBlanks?_eq_some_iff.mpr ⟨gap ++ gap', by simp [given], fun c hc => ?_, by simp, start⟩
    exact (List.mem_append.mp hc).elim (blank c) (blank' c)
  simp only [atLine?, blanksAndWord?, skipped, skipped']

/-- A line is read alike behind any blanks. -/
theorem atLine?_behind_gap {gap gap' : Text} (apart : IsGap gap) (apart' : IsGap gap') (s : Text) :
    atLine? (gap ++ s) = atLine? (gap' ++ s) := by
  have skipped : ∀ {gap : Text}, IsGap gap → dropBlanks? (gap ++ s) = some (trimStart s) := by
    intro gap apart
    obtain ⟨b, gap, rfl⟩ := List.exists_cons_of_ne_nil apart.nonempty
    have rest := trimStart_of_blanks (fun c hc => apart.blank c (List.mem_cons_of_mem b hc)) s
    simp [dropBlanks?, apart.blank b List.mem_cons_self, rest]
  simp only [atLine?, blanksAndWord?, skipped apart, skipped apart']

theorem MentionsLine.of_suffix {s t : Text} (read : (atLine? t).isSome = true) (within : t <:+ s) : MentionsLine s :=
  mentionsLine_iff.mpr ⟨t, (List.mem_tails t s).mpr within, read⟩

theorem MentionsLine.of_within {s t : Text} (mentions : MentionsLine s) (within : s <:+ t) : MentionsLine t := by
  obtain ⟨run, inside, mention⟩ := mentions
  exact ⟨run, inside.trans within.isInfix, mention⟩

end BasicWorkbench
