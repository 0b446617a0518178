import BasicWorkbench.Machines

namespace BasicWorkbench

theorem byteCount_append (s t : Text) : byteCount (s ++ t) = byteCount s + byteCount t := by
  simp [byteCount, encodeUtf8]

theorem byteCount_cons (c : Char) (s : Text) : byteCount (c :: s) = byteCount [c] + byteCount s :=
  byteCount_append [c] s

theorem byteCount_replicate_slash (n : Nat) : byteCount (List.replicate n '/') = n := by
  have slash : byteCount ['/'] = 1 := by decide
  induction n with
  | zero => rfl
  | succ n ih => rw [List.replicate_succ, byteCount_cons, slash, ih, Nat.add_comm]

theorem joinWith_cons_cons (sep piece next : Text) (pieces : List Text) :
    joinWith sep (piece :: next :: pieces) = piece ++ sep ++ joinWith sep (next :: pieces) := rfl

theorem byteCount_joinWith_le (sep : Text) {xs ys : List Text} (fewer : xs.Sublist ys) :
    byteCount (joinWith sep xs) ≤ byteCount (joinWith sep ys) := by
  induction fewer with
  | slnil => exact Nat.le_refl _
  | @cons xs ys y _ ih =>
    cases ys with
    | nil => exact Nat.le_trans ih (Nat.zero_le _)
    | cons z ys =>
      rw [joinWith_cons_cons, byteCount_append, byteCount_append]
      omega
  | @cons_cons xs ys y fewer ih =>
    cases xs with
    | nil =>
      cases ys with
      | nil => exact Nat.le_refl _
      | cons z ys =>
        rw [joinWith_cons_cons, byteCount_append, byteCount_append]
        exact Nat.le_trans (Nat.le_add_right _ _) (Nat.le_add_right _ _)
    | cons x xs =>
      cases ys with
      | nil => exact nomatch fewer
      | cons z ys =>
        rw [joinWith_cons_cons, joinWith_cons_cons, byteCount_append, byteCount_append, byteCount_append,
          byteCount_append]
        omega

theorem splitAtChar_ne_nil (sep : Char) (s : Text) : splitAtChar sep s ≠ [] := by
  cases s with
  | nil => simp [splitAtChar]
  | cons c s =>
    rw [splitAtChar]
    split
    next => simp
    next => split <;> simp

/-- A separator begins a new piece, and any other character belongs to the first. -/
theorem splitAtChar_cons (sep c : Char) (s : Text) :
    ∃ piece pieces, splitAtChar sep s = piece :: pieces ∧
      splitAtChar sep (c :: s) = if c = sep then [] :: piece :: pieces else (c :: piece) :: pieces := by
  cases split : splitAtChar sep s with
  | nil => exact absurd split (splitAtChar_ne_nil sep s)
  | cons piece pieces => exact ⟨piece, pieces, rfl, by rw [splitAtChar, split]⟩

theorem splitAtChar_separator (sep : Char) (s : Text) : splitAtChar sep (sep :: s) = [] :: splitAtChar sep s := by
  obtain ⟨piece, pieces, later, now⟩ := splitAtChar_cons sep sep s
  rw [now, if_pos rfl, later]

theorem splitAtChar_append (sep : Char) (s t : Text) :
    splitAtChar sep (s ++ sep :: t) = splitAtChar sep s ++ splitAtChar sep t := by
  induction s with
  | nil => exact splitAtChar_separator sep t
  | cons c s ih =>
    obtain ⟨piece, pieces, later, now⟩ := splitAtChar_cons sep c s
    obtain ⟨piece', pieces', later', now'⟩ := splitAtChar_cons sep c (s ++ sep :: t)
    rw [ih, later] at later'
    obtain ⟨rfl, rfl⟩ := List.cons.inj later'
    rw [List.cons_append, now, now']
    split <;> rfl

theorem splitAtChar_of_notMem {sep : Char} {s : Text} (absent : sep ∉ s) : splitAtChar sep s = [s] := by
  induction s with
  | nil => rfl
  | cons c s ih =>
    obtain ⟨other, rest⟩ := not_or.mp fun h => absent (List.mem_cons.mpr h)
    rw [splitAtChar, ih rest]
    exact if_neg (Ne.symm other)

namespace Path

theorem byteCount_text (p : Path) :
    byteCount p.text =
      if p.slashes = 0 ∧ p.names = [] then 1 else p.slashes + byteCount (joinWith ['/'] p.names) := by
  have dot : byteCount ['.'] = 1 := by decide
  rw [text]
  by_cases empty : p.slashes = 0 ∧ p.names = []
  · rw [if_pos empty, if_pos (by simp [empty]), dot]
  · rw [if_neg empty, if_neg (by simpa using empty), byteCount_append, byteCount_replicate_slash]

theorem slash_mem_text {p : Path} (absolute : p.isAbsolute = true) : '/' ∈ p.text := by
  obtain ⟨slashes, names⟩ := p
  cases slashes with
  | zero => contradiction
  | succ n => simp [text, List.replicate_succ]

/-- A path without a slash is a bare name, or the dot of an empty one. -/
theorem bare_of_slash_notMem {p : Path} (bare : '/' ∉ p.text) :
    p.names = [] ∧ p.text = ['.'] ∨ p.names = [p.text] := by
  have relative : ¬p.isAbsolute = true := fun absolute => bare (slash_mem_text absolute)
  obtain ⟨slashes, names⟩ := p
  obtain rfl : slashes = 0 := by simpa [isAbsolute] using relative
  cases names with
  | nil => exact .inl ⟨rfl, rfl⟩
  | cons name names =>
    cases names with
    | nil => exact .inr rfl
    | cons next names => exact absurd (by simp [text, joinWith]) bare

/-- The text of a path is not longer without its last name, if it does not come to a dot. -/
theorem byteCount_text_parent (p : Path) : byteCount p.parent.text ≤ max 1 (byteCount p.text) := by
  have fewer := byteCount_joinWith_le ['/'] (List.dropLast_sublist p.names)
  have parent : byteCount (joinWith ['/'] p.parent.names) ≤ byteCount (joinWith ['/'] p.names) := fewer
  have slashes : p.parent.slashes = p.slashes := rfl
  have nameless : p.names = [] → p.parent.names = [] := fun none => by rw [Path.parent, none]; rfl
  rw [byteCount_text, byteCount_text]
  split
  next => omega
  next some =>
    rw [if_neg fun empty => some ⟨slashes.trans empty.1, nameless empty.2⟩]
    omega

end Path

end BasicWorkbench
