import BasicWorkbench.Text

namespace BasicWorkbench

/-- What is left of a text after one or more leading characters of a class, the fewest taken
first. -/
def restsAfter (p : Char → Bool) : Text → List Text
  | [] => []
  | c :: s => if p c then s :: restsAfter p s else []

/-- The answer at the first start, from the left, that gives one. -/
def leftmost {α : Type} (f : Text → Option α) : Text → Option α
  | [] => f []
  | c :: s =>
    match f (c :: s) with
    | some a => some a
    | none => leftmost f s

def atEnd : Text → Bool
  | [] => true
  | [c] => c == '\n'
  | _ => false

def inLine (c : Char) : Bool := c != '\n'

theorem mem_restsAfter {p : Char → Bool} {s r : Text} :
    r ∈ restsAfter p s ↔ ∃ t, t ≠ [] ∧ s = t ++ r ∧ ∀ c ∈ t, p c = true := by
  induction s with
  | nil =>
    simp only [restsAfter, List.not_mem_nil, false_iff]
    rintro ⟨t, ht, he, _⟩
    exact ht (List.append_eq_nil_iff.mp he.symm).1
  | cons c s ih =>
    by_cases hc : p c = true
    · simp only [restsAfter, hc, ↓reduceIte, List.mem_cons, ih]
      constructor
      · rintro (rfl | ⟨t, _, rfl, hp⟩)
        · exact ⟨[c], by simp, by simp, by simpa using hc⟩
        · exact ⟨c :: t, by simp, by simp, by simpa [hc] using hp⟩
      · rintro ⟨t, ht, he, hp⟩
        cases t with
        | nil => exact absurd rfl ht
        | cons d t =>
          obtain ⟨rfl, rfl⟩ := List.cons.inj he
          cases t with
          | nil => exact Or.inl rfl
          | cons e t =>
            exact Or.inr ⟨e :: t, by simp, rfl, fun x hx => hp x (List.mem_cons_of_mem _ hx)⟩
    · simp only [restsAfter, hc, Bool.false_eq_true, ↓reduceIte, List.not_mem_nil, false_iff]
      rintro ⟨t, ht, he, hp⟩
      cases t with
      | nil => exact ht rfl
      | cons d t =>
        obtain ⟨rfl, rfl⟩ := List.cons.inj he
        exact hc (hp c (by simp))

end BasicWorkbench
