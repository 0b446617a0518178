import BasicWorkbench.Proofs.HintedReports
import BasicWorkbench.Proofs.TrimmedLines

namespace BasicWorkbench

/-- Whether what follows the text is in a string, if its start is or is not: each quote changes that. -/
def inStringAfter (inString : Bool) : Text → Bool
  | [] => inString
  | c :: s => inStringAfter (if c = '"' then !inString else inString) s

theorem inStringAfter_iff {inString : Bool} {s : Text} :
    inStringAfter inString s = true ↔ (inString.toNat + s.count '"') % 2 = 1 := by
  induction s generalizing inString with
  | nil => cases inString <;> simp [inStringAfter]
  | cons c s ih =>
    rw [inStringAfter, ih, List.count_cons]
    by_cases quote : c = '"'
    · cases inString <;> simp [quote] <;> omega
    · simp [quote]

/-- A line that starts in a string or not, cut in front of its comment: that starts with the first apostrophe that is
not in a string. -/
structure CommentCut (inString : Bool) (line code comment : Text) : Prop where
  parts : line = code ++ comment
  quoted : ∀ front rest, code = front ++ '\'' :: rest → inStringAfter inString front = true
  marked : comment ≠ [] → comment.head? = some '\'' ∧ inStringAfter inString code = false

namespace CommentCut

theorem cons {inString : Bool} {c : Char} {line code comment : Text} (apart : c = '\'' → inString = true)
    (cut : CommentCut (if c = '"' then !inString else inString) line code comment) :
    CommentCut inString (c :: line) (c :: code) comment where
  parts := congrArg (c :: ·) cut.parts
  quoted front rest same := by
    cases front with
    | nil => exact apart (List.cons.inj same).1
    | cons d front =>
      obtain ⟨rfl, same'⟩ := List.cons.inj same
      exact cut.quoted front rest same'
  marked := cut.marked

theorem exists_cut (inString : Bool) (line : Text) : ∃ code comment, CommentCut inString line code comment := by
  induction line generalizing inString with
  | nil => exact ⟨[], [], rfl, by simp, by simp⟩
  | cons c line ih =>
    by_cases starts : c = '\'' ∧ inString = false
    · obtain ⟨rfl, rfl⟩ := starts
      exact ⟨[], '\'' :: line, rfl, by simp, fun _ => ⟨rfl, rfl⟩⟩
    · obtain ⟨code, comment, cut⟩ := ih (if c = '"' then !inString else inString)
      exact ⟨c :: code, comment, cut.cons (by simpa using starts)⟩

/-- No cut of the line has more code in front. -/
theorem eq_nil_of_longer {inString : Bool} {line code comment more rest : Text}
    (cut : CommentCut inString line code comment) (longer : CommentCut inString line (code ++ more) rest) : more = [] := by
  cases more with
  | nil => rfl
  | cons c more =>
    have behind : comment = c :: more ++ rest := by
      have same := cut.parts.symm.trans longer.parts
      rwa [List.append_assoc, List.append_cancel_left_eq] at same
    obtain ⟨mark, outside⟩ := cut.marked (by simp [behind])
    obtain rfl : c = '\'' := by simpa [behind] using mark
    have inside := longer.quoted code more rfl
    rw [outside] at inside
    contradiction

theorem unique {inString : Bool} {line code comment code' comment' : Text}
    (cut : CommentCut inString line code comment) (cut' : CommentCut inString line code' comment') :
    code = code' ∧ comment = comment' := by
  rcases List.append_eq_append_iff.mp (cut.parts.symm.trans cut'.parts) with ⟨more, rfl, behind⟩ | ⟨more, rfl, behind⟩
  · obtain rfl := cut.eq_nil_of_longer cut'
    exact ⟨(List.append_nil code).symm, behind⟩
  · obtain rfl := cut'.eq_nil_of_longer cut
    exact ⟨List.append_nil code', behind.symm⟩

end CommentCut

theorem count_mod_of_outside {s : Text} (outside : inStringAfter false s = false) : s.count '"' % 2 = 0 := by
  have odd : ¬inStringAfter false s = true := by simp [outside]
  rw [inStringAfter_iff] at odd
  simp only [Bool.toNat_false, Nat.zero_add] at odd
  omega

section Lines

variable {line code comment : Text} (cut : CommentCut false line code comment)

include cut

/-- The trimmed line starts with an apostrophe if it is a comment, with nothing but blanks in front. -/
theorem CommentCut.head?_trim_iff :
    (trim line).head? = some '\'' ↔ comment ≠ [] ∧ ∀ c ∈ code, isBlank c = true := by
  have solid : ∀ c ∈ ['\''], isBlank c = false := forall_mem_of_all (by decide)
  have starts : ∀ s : Text, ['\''] <+: s ↔ ∃ rest, s = '\'' :: rest := fun s => exists_congr fun rest => eq_comm
  have first : (trim line).head? = some '\'' ↔ ∃ rest, trimStart line = '\'' :: rest := by
    rw [List.head?_eq_some_iff, ← starts, prefix_trim_iff solid, starts]
  rw [first]
  constructor
  · rintro ⟨rest, start⟩
    obtain ⟨indent, parts, blank⟩ := exists_indent line
    rw [start] at parts
    rcases List.append_eq_append_iff.mp (cut.parts.symm.trans parts) with ⟨more, whole, behind⟩ | ⟨more, whole, behind⟩
    · exact ⟨by simp [behind], fun c hc => blank c (whole ▸ List.mem_append_left more hc)⟩
    · cases more with
      | nil =>
        rw [List.append_nil] at whole
        exact ⟨by simp [← show '\'' :: rest = comment from behind], fun c hc => blank c (whole ▸ hc)⟩
      | cons c more =>
        obtain ⟨rfl, _⟩ := List.cons.inj behind
        have inside := cut.quoted _ more whole
        rw [inStringAfter_iff, count_of_blanks (by decide) blank] at inside
        exact absurd inside (by decide)
  · rintro ⟨nonempty, blank⟩
    obtain ⟨mark, outside⟩ := cut.marked nonempty
    obtain ⟨rest, rfl⟩ := List.head?_eq_some_iff.mp mark
    refine ⟨rest, ?_⟩
    rw [cut.parts, trimStart_of_blanks blank]
    exact trimStart_of_not_blank (by decide) rest

/-- A string is found open on a line if one is, or if the comment has an odd number of quotes and more than blanks
in front. -/
theorem CommentCut.leavesStringOpen_iff :
    leavesStringOpen (trim line) = true ↔
      code.count '"' % 2 = 1 ∨ comment.count '"' % 2 = 1 ∧ ¬∀ c ∈ code, isBlank c = true := by
  have total : line.count '"' = code.count '"' + comment.count '"' :=
    (congrArg (List.count '"') cut.parts).trans List.count_append
  rw [leavesStringOpen, Bool.and_eq_true, beq_iff_eq, bne_iff_ne, ne_eq, cut.head?_trim_iff, count_trim (by decide),
    total]
  by_cases none : comment = []
  · simp [none]
  · have even := count_mod_of_outside (cut.marked none).2
    have parity : (code.count '"' + comment.count '"') % 2 = 1 ↔ comment.count '"' % 2 = 1 := by omega
    simp [none, even, parity]

end Lines

/-- Behind problems of which one has no place, open strings are found as if there were no comments, exactly if no line
has a comment with an odd number of quotes behind more than blanks. -/
theorem open_strings_as_uncommented_iff {problems : List Problem} (unplaced : ∃ p ∈ problems, p.place = none)
    (lines : List Text) :
    (∀ n line, lines[n]? = some line → ∃ code comment, CommentCut false line code comment ∧
        (unclosedString (n + 1) ∈ addedHints problems lines ↔ code.count '"' % 2 = 1)) ↔
      ∀ line ∈ lines, ∀ code comment, CommentCut false line code comment → comment.count '"' % 2 = 1 →
        ∀ c ∈ code, isBlank c = true := by
  have added {n : Nat} {line : Text} (there : lines[n]? = some line) :
      unclosedString (n + 1) ∈ addedHints problems lines ↔ leavesStringOpen (trim line) = true := by
    rw [mem_addedHints, and_iff_right unplaced, unclosedString_mem_sourceHints]
    constructor
    · rintro ⟨n', line', there', opened, same⟩
      obtain rfl : n = n' := by omega
      obtain rfl : line = line' := Option.some.inj (there.symm.trans there')
      exact opened
    · intro opened
      exact ⟨n, line, there, opened, rfl⟩
  constructor
  · intro agrees line listed code comment cut odd
    obtain ⟨n, there⟩ := List.mem_iff_getElem?.mp listed
    obtain ⟨code', comment', cut', agree⟩ := agrees n line there
    obtain ⟨rfl, rfl⟩ := cut.unique cut'
    rw [added there, cut.leavesStringOpen_iff] at agree
    by_contra filled
    have opened : code.count '"' % 2 = 1 := agree.mp (.inr ⟨odd, filled⟩)
    have nonempty : comment ≠ [] := by
      rintro rfl
      simp at odd
    have even := count_mod_of_outside (cut.marked nonempty).2
    omega
  · intro blank n line there
    obtain ⟨code, comment, cut⟩ := CommentCut.exists_cut false line
    refine ⟨code, comment, cut, ?_⟩
    rw [added there, cut.leavesStringOpen_iff]
    exact or_iff_left fun ⟨odd, filled⟩ => filled (blank line (List.mem_of_getElem? there) code comment cut odd)

/-- A quote in a comment behind an assignment is taken for an open string, and one in a comment of its own is not. -/
theorem open_string_in_comment :
    let problems : List Problem := [.unplaced "boom"]
    let lines : List Text := ["x = \"a\" ' don\"t", "' don\"t"]
    addedHints problems lines = [unclosedString 1] ∧
      ¬∀ n line, lines[n]? = some line → ∃ code comment, CommentCut false line code comment ∧
        (unclosedString (n + 1) ∈ addedHints problems lines ↔ code.count '"' % 2 = 1) := by
  intro problems lines
  refine ⟨by rfl, fun agrees => ?_⟩
  have unplaced : ∃ p ∈ problems, p.place = none := ⟨_, List.mem_cons_self, rfl⟩
  have cut : CommentCut false "x = \"a\" ' don\"t" "x = \"a\" " "' don\"t" := {
    parts := by decide
    quoted := by
      intro front rest same
      have listed : '\'' ∈ "x = \"a\" ".toList := same ▸ List.mem_append_right front List.mem_cons_self
      exact absurd listed (by decide)
    marked := fun _ => ⟨by decide, by decide⟩ }
  have blank := (open_strings_as_uncommented_iff unplaced lines).mp agrees _ List.mem_cons_self _ _ cut (by decide)
  exact absurd (blank 'x' (by decide)) (by decide)

end BasicWorkbench
