import BasicWorkbench.Proofs.LetterCase
import BasicWorkbench.Proofs.ReportSightings

namespace BasicWorkbench

theorem occursIn_iff {w s : Text} : occursIn w s = true ↔ w <:+: s := by
  induction s with
  | nil => rw [occursIn, List.isEmpty_iff, List.infix_nil]
  | cons c s ih => rw [occursIn, Bool.or_eq_true, List.isPrefixOf_iff_prefix, ih, List.infix_cons_iff]

theorem infix_asciiLower_iff {w s : Text} : w <:+: asciiLower s ↔ ∃ v, v <:+: s ∧ asciiLower v = w := by
  constructor
  · rintro ⟨front, back, parts⟩
    obtain ⟨l, back', rfl, lower, rfl⟩ := List.map_eq_append_iff.mp parts.symm
    obtain ⟨front', v, rfl, rfl, spelled⟩ := List.map_eq_append_iff.mp lower
    exact ⟨v, ⟨front', back', rfl⟩, spelled⟩
  · rintro ⟨v, within, rfl⟩
    exact within.map Char.toLower

theorem prefix_asciiLower_iff {w s : Text} :
    w <+: asciiLower s ↔ ∃ v rest, s = v ++ rest ∧ asciiLower v = w := by
  constructor
  · rintro ⟨back, parts⟩
    obtain ⟨v, rest, same, spelled, _⟩ := List.map_eq_append_iff.mp parts.symm
    exact ⟨v, rest, same, spelled⟩
  · rintro ⟨v, rest, rfl, rfl⟩
    exact ⟨asciiLower rest, (asciiLower_append v rest).symm⟩

/-- A text is the blanks in front of it, the trimmed text and the blanks behind that. -/
theorem exists_margins (s : Text) :
    ∃ indent margin, s = indent ++ trimStart s ∧ trimStart s = trim s ++ margin ∧
      (∀ c ∈ indent, isBlank c = true) ∧ ∀ c ∈ margin, isBlank c = true := by
  obtain ⟨indent, parts, blank⟩ := exists_indent s
  obtain ⟨margin, parts', blank'⟩ := exists_indent (trimStart s).reverse
  refine ⟨indent, margin.reverse, parts, ?_, blank, fun c hc => blank' c (List.mem_reverse.mp hc)⟩
  have back := congrArg List.reverse parts'
  rwa [List.reverse_reverse, List.reverse_append] at back

theorem count_of_blanks {c : Char} (solid : isBlank c = false) {blanks : Text} (blank : ∀ d ∈ blanks, isBlank d = true) :
    blanks.count c = 0 := by
  rw [List.count_eq_zero]
  intro listed
  exact absurd (blank c listed) (by simp [solid])

theorem count_trim {c : Char} (solid : isBlank c = false) (s : Text) : (trim s).count c = s.count c := by
  obtain ⟨indent, margin, parts, parts', blank, blank'⟩ := exists_margins s
  have front : indent.count c = 0 := count_of_blanks solid blank
  have behind : margin.count c = 0 := count_of_blanks solid blank'
  calc (trim s).count c = (trim s).count c + margin.count c := by rw [behind, Nat.add_zero]
    _ = (trimStart s).count c := by rw [parts', List.count_append]
    _ = indent.count c + (trimStart s).count c := by rw [front, Nat.zero_add]
    _ = s.count c := by rw [← List.count_append, ← parts]

section Solid

variable {w : Text} (solid : ∀ c ∈ w, isBlank c = false)

include solid

/-- The blanks behind a text do not matter for what it starts with, if that has no blank. -/
theorem prefix_trim_iff {s : Text} : w <+: trim s ↔ w <+: trimStart s := by
  constructor
  · intro start
    exact start.trans (prefix_of_trim s)
  · intro start
    obtain ⟨_, margin, _, parts, _, blank⟩ := exists_margins s
    rcases List.prefix_or_prefix_of_prefix start (prefix_of_trim s) with start' | ⟨more, rfl⟩
    · exact start'
    · rw [parts, List.prefix_append_right_inj] at start
      cases more with
      | nil => exact List.append_nil _ ▸ List.prefix_refl _
      | cons c more =>
        have first : c ∈ margin := start.subset List.mem_cons_self
        have last : isBlank c = false := solid c (List.mem_append_right _ List.mem_cons_self)
        exact absurd (blank c first) (by simp [last])

theorem infix_of_infix_blanks_append {blanks s : Text} (nonempty : w ≠ []) (blank : ∀ c ∈ blanks, isBlank c = true)
    (within : w <:+: blanks ++ s) : w <:+: s := by
  induction blanks with
  | nil => exact within
  | cons b blanks ih =>
    rcases List.infix_cons_iff.mp within with start | later
    · obtain ⟨c, w, rfl⟩ := List.exists_cons_of_ne_nil nonempty
      obtain ⟨rfl, _⟩ := List.cons_prefix_cons.mp start
      exact absurd (blank c List.mem_cons_self) (by simp [solid c List.mem_cons_self])
    · exact ih (fun c hc => blank c (List.mem_cons_of_mem b hc)) later

theorem infix_trim_iff {s : Text} (nonempty : w ≠ []) : w <:+: trim s ↔ w <:+: s := by
  constructor
  · intro within
    exact within.trans (infix_of_trim s)
  · intro within
    obtain ⟨indent, margin, parts, parts', blank, blank'⟩ := exists_margins s
    rw [parts] at within
    have start := infix_of_infix_blanks_append solid nonempty blank within
    rw [parts', ← List.reverse_infix, List.reverse_append] at start
    have solid' : ∀ c ∈ w.reverse, isBlank c = false := fun c hc => solid c (List.mem_reverse.mp hc)
    have nonempty' : w.reverse ≠ [] := by simpa using nonempty
    have blank'' : ∀ c ∈ margin.reverse, isBlank c = true := fun c hc => blank' c (List.mem_reverse.mp hc)
    exact List.reverse_infix.mp (infix_of_infix_blanks_append solid' nonempty' blank'' start)

end Solid

end BasicWorkbench
