import Mathlib.Data.List.Nodup
import BasicWorkbench.Proofs.SymbolHistories

namespace BasicWorkbench

def Symbol.line (s : Symbol) : Nat := s.span.start.line

/-- A symbol without which a table tells the same of its name: this is told on an earlier line, and told last on a
later one or with the same type. -/
structure Symbol.CoveredBy (s : Symbol) (told : List Symbol) : Prop where
  earlier : ∃ e ∈ told, e.line < s.line ∧ e.key = s.key
  last : ∀ e, lastTold s.key told = some e → s.line < e.line ∨ e.valueType = s.valueType

section Searches

variable {α : Type} {p q : α → Bool} {xs : List α}

/-- A search that finds what is kept finds it in what is kept. -/
theorem find?_filter_of_kept (kept : ∀ a, xs.find? q = some a → p a = true) :
    (xs.filter p).find? q = xs.find? q := by
  induction xs with
  | nil => rfl
  | cons x xs ih =>
    cases found : q x with
    | true =>
      have here : p x = true := kept x (List.find?_cons_of_pos found)
      rw [List.filter_cons_of_pos here, List.find?_cons_of_pos found, List.find?_cons_of_pos found]
    | false =>
      have miss : ¬q x = true := by simp [found]
      have rest := ih fun a later => kept a ((List.find?_cons_of_neg miss).trans later)
      rw [List.find?_cons_of_neg miss, ← rest, List.filter_cons]
      split
      next => exact List.find?_cons_of_neg miss
      next => rfl

/-- What is found comes before all others of its kind. -/
theorem eq_or_rel_of_find? {r : α → α → Prop} (ordered : xs.Pairwise r) {a b : α} (found : xs.find? q = some a)
    (member : b ∈ xs) (holds : q b = true) : a = b ∨ r a b := by
  obtain ⟨_, front, behind, rfl, others⟩ := List.find?_eq_some_iff_append.mp found
  rcases List.mem_append.mp member with before | after
  · exact absurd holds (by simpa using others b before)
  · rcases List.mem_cons.mp after with same | later
    · exact .inl same.symm
    · have tail := (List.pairwise_append.mp ordered).2.1
      exact .inr ((List.pairwise_cons.mp tail).1 b later)

end Searches

theorem mem_keysInOrder {key : Text} {told : List Symbol} : key ∈ keysInOrder told ↔ ∃ s ∈ told, s.key = key := by
  simp [keysInOrder]

theorem variableTold_eq_some_iff {key : Text} {told : List Symbol} {s : Symbol} :
    variableTold key told = some s ↔
      ∃ first last, firstTold key told = some first ∧ lastTold key told = some last ∧
        { first with valueType := last.valueType } = s := by
  simp [variableTold, Option.bind_eq_some_iff]

theorem of_firstTold {key : Text} {told : List Symbol} {s : Symbol} (first : firstTold key told = some s) :
    s ∈ told ∧ s.key = key :=
  ⟨List.mem_of_find?_eq_some first, by simpa using List.find?_some first⟩

theorem of_lastTold {key : Text} {told : List Symbol} {s : Symbol} (last : lastTold key told = some s) :
    s ∈ told ∧ s.key = key :=
  ⟨List.mem_reverse.mp (List.mem_of_find?_eq_some last), by simpa using List.find?_some last⟩

theorem lastTold_filter_of_kept {key : Text} {told : List Symbol} {keep : Symbol → Bool} {last : Symbol}
    (found : lastTold key told = some last) (kept : keep last = true) :
    lastTold key (told.filter keep) = some last := by
  rw [lastTold, ← List.filter_reverse]
  refine (find?_filter_of_kept fun a again => ?_).trans found
  obtain rfl := Option.some.inj (found.symm.trans again)
  exact kept

section Thinned

variable {told : List Symbol} (ordered : told.Pairwise fun s t => s.line < t.line)

include ordered

theorem line_le_of_firstTold {key : Text} {first s : Symbol} (found : firstTold key told = some first)
    (member : s ∈ told) (same : s.key = key) : first.line ≤ s.line := by
  rcases eq_or_rel_of_find? ordered found member (decide_eq_true same) with rfl | lt
  · exact Nat.le_refl _
  · exact Nat.le_of_lt lt

theorem line_le_of_lastTold {key : Text} {last s : Symbol} (found : lastTold key told = some last)
    (member : s ∈ told) (same : s.key = key) : s.line ≤ last.line := by
  have backwards : told.reverse.Pairwise fun s t => t.line < s.line := List.pairwise_reverse.mpr ordered
  rcases eq_or_rel_of_find? backwards found (List.mem_reverse.mpr member) (decide_eq_true same) with rfl | lt
  · exact Nat.le_refl _
  · exact Nat.le_of_lt lt

theorem eq_of_line_eq {s t : Symbol} (hs : s ∈ told) (ht : t ∈ told) (same : s.line = t.line) : s = t := by
  have once : (told.map Symbol.line).Nodup := List.pairwise_map.mpr (ordered.imp Nat.ne_of_lt)
  exact List.inj_on_of_nodup_map once hs ht same

variable {keep : Symbol → Bool}

/-- The keys are the same, and in the same order, if each symbol left out has its key from an earlier one. -/
theorem keysInOrder_filter
    (earlier : ∀ s ∈ told, keep s = false → ∃ e ∈ told.filter keep, e.line < s.line ∧ e.key = s.key) :
    keysInOrder (told.filter keep) = keysInOrder told := by
  induction told using List.reverseRecOn with
  | nil => rfl
  | append_singleton told s ih =>
    obtain ⟨before, _, last⟩ := List.pairwise_append.mp ordered
    have next : ∀ t ∈ told, t.line < s.line := fun t ht => last t ht s (List.mem_singleton_self s)
    have among : ∀ {e t : Symbol}, e ∈ (told ++ [s]).filter keep → e.line < t.line → t.line ≤ s.line →
        e ∈ told.filter keep := by
      intro e t member lt le
      obtain ⟨member, kept⟩ := List.mem_filter.mp member
      rcases List.mem_append.mp member with member | here
      · exact List.mem_filter.mpr ⟨member, kept⟩
      · obtain rfl := List.mem_singleton.mp here
        omega
    have rest := ih before fun t ht lost => by
      obtain ⟨e, member, lt, same⟩ := earlier t (List.mem_append_left _ ht) lost
      exact ⟨e, among member lt (Nat.le_of_lt (next t ht)), lt, same⟩
    rw [List.filter_append, keysInOrder_concat]
    cases kept : keep s with
    | true => rw [List.filter_cons_of_pos kept, List.filter_nil, keysInOrder_concat, rest]
    | false =>
      obtain ⟨e, member, lt, same⟩ := earlier s (by simp) kept
      have known : s.key ∈ keysInOrder told := by
        rw [← rest]
        exact mem_keysInOrder.mpr ⟨e, among member lt (Nat.le_refl _), same⟩
      rw [List.filter_cons_of_neg (by simp [kept]), List.filter_nil, List.append_nil, rest, if_pos known]

theorem firstTold_filter
    (earlier : ∀ s ∈ told, keep s = false → ∃ e ∈ told.filter keep, e.line < s.line ∧ e.key = s.key) (key : Text) :
    firstTold key (told.filter keep) = firstTold key told := by
  refine find?_filter_of_kept fun first found => ?_
  by_contra lost
  obtain ⟨member, same⟩ := of_firstTold found
  obtain ⟨e, member', lt, same'⟩ := earlier first member (by simpa using lost)
  have le := line_le_of_firstTold ordered found (List.mem_filter.mp member').1 (same'.trans same)
  omega

theorem variableTold_filter (covered : ∀ s ∈ told, keep s = false → s.CoveredBy (told.filter keep)) (key : Text) :
    variableTold key (told.filter keep) = variableTold key told := by
  have first : firstTold key (told.filter keep) = firstTold key told :=
    firstTold_filter ordered (fun s member lost => (covered s member lost).earlier) key
  have both := lastTold_isSome key (told.filter keep)
  have both' := lastTold_isSome key told
  rw [first] at both
  rw [variableTold, variableTold, first]
  cases found : firstTold key told with
  | none => rfl
  | some first =>
    rw [found] at both both'
    obtain ⟨last', hl'⟩ := Option.isSome_iff_exists.mp both
    obtain ⟨last, hl⟩ := Option.isSome_iff_exists.mp both'
    have type : last'.valueType = last.valueType := by
      cases kept : keep last with
      | true => rw [Option.some.inj (hl'.symm.trans (lastTold_filter_of_kept hl kept))]
      | false =>
        obtain ⟨member, rfl⟩ := of_lastTold hl
        refine ((covered last member kept).last last' hl').resolve_left fun lt => ?_
        obtain ⟨member', same⟩ := of_lastTold hl'
        have le := line_le_of_lastTold ordered hl (List.mem_filter.mp member').1 same
        omega
    rw [hl', hl]
    simp [type]

variable (typed : ∀ s ∈ told, ∀ t ∈ told, keep s = false → keep t = false → s.valueType = t.valueType)

include typed

theorem coveredBy_of_same {s : Symbol} (member : s ∈ told) (lost : keep s = false)
    (same : variableTold s.key (told.filter keep) = variableTold s.key told) : s.CoveredBy (told.filter keep) := by
  have known : (firstTold s.key told).isSome = true := by
    rw [firstTold, List.find?_isSome]
    exact ⟨s, member, decide_eq_true rfl⟩
  obtain ⟨first, hf⟩ := Option.isSome_iff_exists.mp known
  obtain ⟨last, hl⟩ := Option.isSome_iff_exists.mp ((lastTold_isSome s.key told).trans known)
  have whole := variableTold_eq_some_iff.mpr ⟨first, last, hf, hl, rfl⟩
  rw [← same] at whole
  obtain ⟨first', last', hf', hl', equal⟩ := variableTold_eq_some_iff.mp whole
  obtain ⟨_, _, span, _, type⟩ := Symbol.mk.inj equal
  have apart : ∀ t ∈ told, keep t = true → t.line ≠ s.line := by
    intro t ht kept there
    rw [eq_of_line_eq ordered ht member there, lost] at kept
    contradiction
  constructor
  case earlier =>
    obtain ⟨member', key'⟩ := of_firstTold hf'
    obtain ⟨within, kept⟩ := List.mem_filter.mp member'
    have place : first'.line = first.line := congrArg (·.start.line) span
    have le := line_le_of_firstTold ordered hf member rfl
    have other := apart first' within kept
    exact ⟨first', member', by omega, key'⟩
  case last =>
    intro e he
    obtain rfl := Option.some.inj (hl'.symm.trans he)
    obtain ⟨within, _⟩ := of_lastTold hl
    cases kept : keep last with
    | true =>
      obtain rfl := Option.some.inj (he.symm.trans (lastTold_filter_of_kept hl kept))
      have le := line_le_of_lastTold ordered hl member rfl
      have other := apart last' within kept
      exact .inl (by omega)
    | false => exact .inr (type.trans (typed last within s member kept lost))

/-- Variables of one type can be left out, for a table to tell the same, exactly if each is covered by the rest. -/
theorem thinned_iff :
    (keysInOrder (told.filter keep) = keysInOrder told ∧
        ∀ key, variableTold key (told.filter keep) = variableTold key told) ↔
      ∀ s ∈ told, keep s = false → s.CoveredBy (told.filter keep) := by
  constructor
  · rintro ⟨_, same⟩ s member lost
    exact coveredBy_of_same ordered typed member lost (same s.key)
  · intro covered
    exact ⟨keysInOrder_filter ordered fun s member lost => (covered s member lost).earlier,
      variableTold_filter ordered covered⟩

end Thinned

end BasicWorkbench
