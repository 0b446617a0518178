import BasicWorkbench.Machines
import BasicWorkbench.Proofs.Outcomes

namespace BasicWorkbench

/-- Whether a name leads nowhere else: nothing, or one dot. -/
def staysHere (name : Text) : Bool := name.isEmpty || name = ['.']

def Trail.to (here : Trail) (name : Text) : Trail :=
  if staysHere name then here else if name = ['.', '.'] then here.dropLast else here ++ [name]

def Trail.above (here : Trail) (levels : Nat) : Trail := here.take (here.length - levels)

/-- How many levels names climb above the directory where they start. -/
def climb : List Text → Nat
  | [] => 0
  | name :: names =>
    if staysHere name then climb names
    else if name = ['.', '.'] then climb names + 1
    else climb names - 1

/-- What names add to the highest directory that they come to. -/
def landing : List Text → Trail
  | [] => []
  | name :: names =>
    if staysHere name || name = ['.', '.'] || 0 < climb names then landing names
    else name :: landing names

theorem Trail.above_dropLast (here : Trail) (levels : Nat) :
    Trail.above here.dropLast levels = Trail.above here (levels + 1) := by
  rw [above, above, List.dropLast_eq_take, List.take_take, List.length_take]
  congr 1
  omega

theorem Trail.above_append (here : Trail) (name : Text) (levels : Nat) :
    Trail.above (here ++ [name]) (levels + 1) = Trail.above here levels := by
  have shorter : (here ++ [name]).length - (levels + 1) = here.length - levels := by simp
  rw [above, above, shorter, List.take_append_of_le_length (Nat.sub_le _ _)]

/-- A step to a name and the names behind it climb and land as all of them together. -/
theorem Trail.above_to (here : Trail) (name : Text) (names : List Text) :
    Trail.above (Trail.to here name) (climb names) ++ landing names =
      Trail.above here (climb (name :: names)) ++ landing (name :: names) := by
  rw [Trail.to, climb, landing]
  cases stays : staysHere name with
  | true => rfl
  | false =>
    by_cases up : name = ['.', '.']
    · simp [up, above_dropLast]
    · cases levels : climb names with
      | zero => simp [up, above, List.take_of_length_le]
      | succ levels => simp [up, above_append]

namespace Machine

variable {m : Machine}

/-- Where a walk by names goes on: in a directory, behind a name that is not too long. -/
theorem walk_cons (here : Trail) (name : Text) (names : List Text) :
    m.walk here (name :: names) =
      match m.node? here with
      | some .directory =>
        if nameLimit < byteCount name then .error .nameTooLong else m.walk (here.to name) names
      | some (.file _ _) => .error .notDirectory
      | none => .error .notFound := by
  have limits : byteCount [] ≤ nameLimit ∧ byteCount ['.'] ≤ nameLimit ∧ byteCount ['.', '.'] ≤ nameLimit := by
    decide
  obtain ⟨nothing, dot, dots⟩ := limits
  rw [walk, Trail.to]
  cases m.node? here with
  | none => rfl
  | some node =>
    cases node with
    | file bytes runnable => rfl
    | directory =>
      dsimp only
      cases stays : staysHere name with
      | true =>
        have short : byteCount name ≤ nameLimit := by
          rcases Bool.or_eq_true_iff.mp stays with empty | single
          · rwa [List.isEmpty_iff.mp empty]
          · rwa [of_decide_eq_true single]
        have same : (name.isEmpty || name = ['.']) = true := stays
        rw [if_pos same, if_neg (Nat.not_lt.mpr short), if_pos rfl]
      | false =>
        have same : ¬(name.isEmpty || name = ['.']) = true := by
          rw [Bool.not_eq_true]
          exact stays
        rw [if_neg same, if_neg Bool.false_ne_true]
        by_cases up : name = ['.', '.']
        · subst up
          rw [if_pos rfl, if_neg (Nat.not_lt.mpr dots), if_pos rfl]
        · rw [if_neg up, if_neg up]

theorem walk_cons_eq_ok {here trail : Trail} {name : Text} {names : List Text} :
    m.walk here (name :: names) = .ok trail ↔
      m.node? here = some .directory ∧ byteCount name ≤ nameLimit ∧ m.walk (here.to name) names = .ok trail := by
  rw [walk_cons]
  split
  next directory =>
    split
    next long => simp [Nat.not_le.mpr long]
    next short => simp [directory, Nat.not_lt.mp short]
  next file => simp [file]
  next nothing => simp [nothing]

theorem walk_nil_eq_ok {here trail : Trail} :
    m.walk here [] = .ok trail ↔ (m.node? here).isSome = true ∧ here = trail := by
  rw [walk]
  split
  next there => simp [there]
  next absent => simp [absent]

/-- Wherever it started, a walk that arrives is where its names land below a directory so high. -/
theorem eq_of_walk {here trail : Trail} {names : List Text} (arrived : m.walk here names = .ok trail) :
    trail = here.above (climb names) ++ landing names := by
  induction names generalizing here with
  | nil =>
    obtain ⟨_, rfl⟩ := walk_nil_eq_ok.mp arrived
    simp [Trail.above, climb, landing]
  | cons name names ih => rw [ih (walk_cons_eq_ok.mp arrived).2.2, Trail.above_to]

theorem walk_append (here : Trail) (names more : List Text) :
    m.walk here (names ++ more) = (do m.walk (← m.walk here names) more) := by
  induction names generalizing here with
  | nil =>
    rw [List.nil_append, walk]
    split
    next => rfl
    next absent =>
      have missing : m.node? here = none := by simpa using absent
      cases more with
      | nil => rw [walk, if_neg absent]; rfl
      | cons name more => rw [walk_cons, missing]; rfl
  | cons name names ih =>
    rw [List.cons_append, walk_cons, walk_cons]
    split
    next =>
      split
      next => rfl
      next => exact ih _
    next => rfl
    next => rfl

theorem walk_append_eq_ok {here trail : Trail} {names more : List Text} :
    m.walk here (names ++ more) = .ok trail ↔
      ∃ middle, m.walk here names = .ok middle ∧ m.walk middle more = .ok trail := by
  rw [walk_append, bind_eq_ok]

theorem locate_eq_ok {here trail : Trail} {p : Path} :
    m.locate here p = .ok trail ↔
      byteCount p.text < pathLimit ∧ m.walk (if p.isAbsolute then [] else here) p.names = .ok trail := by
  rw [locate]
  split
  next long => simp [Nat.not_lt.mpr long]
  next short => simp [Nat.lt_of_not_le short]

theorem entry?_eq_ok {p : Path} {place : Trail} {node : Node} :
    m.entry? p = .ok (place, node) ↔ m.locate m.cwd p = .ok place ∧ m.node? place = some node := by
  unfold entry?
  rw [bind_eq_ok]
  constructor
  · rintro ⟨trail, arrived, there⟩
    split at there
    next other here =>
      obtain ⟨rfl, rfl⟩ := Prod.mk.inj (Except.ok.inj there)
      exact ⟨arrived, here⟩
    next => contradiction
  · rintro ⟨arrived, there⟩
    exact ⟨place, arrived, by rw [there]⟩

theorem entry?_of_find {p : Path} {place : Trail} {node : Node}
    (found : m.find p = .ok (some (place, node))) : m.entry? p = .ok (place, node) := by
  unfold find at found
  split at found
  next => simp at found
  next =>
    split at found
    next entry there => rw [there, Option.some.inj (Except.ok.inj found)]
    next => contradiction
    next => simp at found

theorem locate_of_find {p : Path} {place : Trail} {node : Node}
    (found : m.find p = .ok (some (place, node))) :
    m.locate m.cwd p = .ok place ∧ m.node? place = some node :=
  entry?_eq_ok.mp (entry?_of_find found)

theorem hasEntry_eq_true {p : Path} :
    m.hasEntry p = .ok true ↔ ∃ place node, m.find p = .ok (some (place, node)) := by
  rw [hasEntry, map_eq_ok]
  constructor
  · rintro ⟨entry, found, there⟩
    obtain ⟨⟨place, node⟩, rfl⟩ := Option.isSome_iff_exists.mp there
    exact ⟨place, node, found⟩
  · rintro ⟨place, node, found⟩
    exact ⟨_, found, rfl⟩

/-- A path that is too long itself, or has a name on its way that is. -/
def TooLong (m : Machine) (p : Path) : Prop := m.find p = .error (.system ⟨.nameTooLong, p.text⟩)

/-- Nothing but length makes a search fail. -/
theorem tooLong_of_find {p : Path} {f : Fault} (failed : m.find p = .error f) :
    m.TooLong p ∧ f = .system ⟨.nameTooLong, p.text⟩ := by
  unfold TooLong
  unfold find at failed ⊢
  split at failed
  next => contradiction
  next plain =>
    rw [if_neg plain]
    split at failed
    next => contradiction
    next => exact ⟨rfl, (Except.error.inj failed).symm⟩
    next => contradiction

/-- A search finds an entry or none, or the path is too long. -/
theorem find_cases (m : Machine) (p : Path) :
    (∃ place node, m.find p = .ok (some (place, node)) ∧ m.hasEntry p = .ok true) ∨
      m.find p = .ok none ∧ m.hasEntry p = .ok false ∨
      m.TooLong p ∧ m.hasEntry p = .error (.system ⟨.nameTooLong, p.text⟩) := by
  cases found : m.find p with
  | error f =>
    obtain ⟨long, rfl⟩ := tooLong_of_find found
    exact .inr (.inr ⟨long, by rw [hasEntry, found]; rfl⟩)
  | ok entry =>
    cases entry with
    | none => exact .inr (.inl ⟨rfl, by rw [hasEntry, found]; rfl⟩)
    | some entry => exact .inl ⟨entry.1, entry.2, rfl, by rw [hasEntry, found]; rfl⟩

end Machine

end BasicWorkbench
