import BasicWorkbench.Proofs.FileWalks
import BasicWorkbench.Proofs.PathTexts

namespace BasicWorkbench

theorem firstStarted_eq_ok {α : Type} {attempts : List (Except SystemCause α)} {a : α} :
    firstStarted attempts = .ok a ↔ attempts.findSome? Except.toOption = some a := by
  unfold firstStarted
  cases attempts.findSome? Except.toOption <;> simp

/-- A searched name is the name itself, or it stands behind the directory and one slash. -/
theorem nameIn_cases (directory name : Text) :
    directory = [] ∧ nameIn directory name = name ∨
      ∃ s, nameIn directory name = s ++ '/' :: name ∧ (directory = s ∧ s ≠ [] ∨ directory = s ++ ['/']) := by
  unfold nameIn
  split
  next closed =>
    rcases Bool.or_eq_true_iff.mp closed with nothing | slash
    · obtain rfl := List.isEmpty_iff.mp nothing
      exact .inl ⟨rfl, rfl⟩
    · obtain ⟨s, rfl⟩ := List.getLast?_eq_some_iff.mp (of_decide_eq_true slash)
      exact .inr ⟨s, by simp, .inr rfl⟩
  next opened =>
    refine .inr ⟨directory, rfl, .inl ⟨rfl, ?_⟩⟩
    rintro rfl
    exact opened rfl

namespace Machine

variable {m : Machine}

theorem programOn_eq_ok {trail place : Trail} {behaviour : Behaviour} :
    m.programOn trail = .ok (place, behaviour) ↔
      place = trail ∧ ∃ bytes, m.node? trail = some (.file bytes (.works behaviour)) := by
  unfold programOn
  split
  next bytes works there => simp [there, eq_comm]
  all_goals simp [*]

theorem programOn_follow_eq_ok {here place : Trail} {s : Text} {behaviour : Behaviour} :
    (do m.programOn (← m.follow here s)) = .ok (place, behaviour) ↔
      m.follow here s = .ok place ∧ ∃ bytes, m.node? place = some (.file bytes (.works behaviour)) := by
  rw [bind_eq_ok]
  constructor
  · rintro ⟨trail, arrived, runs⟩
    obtain ⟨rfl, there⟩ := programOn_eq_ok.mp runs
    exact ⟨arrived, there⟩
  · rintro ⟨arrived, there⟩
    exact ⟨place, arrived, programOn_eq_ok.mpr ⟨rfl, there⟩⟩

/-- A searched directory has a file of a name that can be started. -/
def Offers (m : Machine) (here : Trail) (name directory : Text) : Prop :=
  ∃ trail bytes behaviour, m.follow here (nameIn directory name) = .ok trail ∧
    m.node? trail = some (.file bytes (.works behaviour))

/-- Of a name without a directory the first file is started that can be, in the order of the search. -/
theorem programAt_of_bare {here : Trail} {p : Path} {place : Trail} {behaviour : Behaviour} (bare : '/' ∉ p.text) :
    m.programAt here p = .ok (place, behaviour) ↔
      ∃ front directory behind, m.searched = front ++ directory :: behind ∧
        (m.follow here (nameIn directory p.text) = .ok place ∧
          ∃ bytes, m.node? place = some (.file bytes (.works behaviour))) ∧
        ∀ other ∈ front, ¬m.Offers here p.text other := by
  have refused (directory : Text) :
      Except.toOption (do m.programOn (← m.follow here (nameIn directory p.text))) = none ↔
        ¬m.Offers here p.text directory := by
    rw [Option.eq_none_iff_forall_ne_some]
    constructor
    · rintro none ⟨trail, bytes, behaviour, arrived, there⟩
      exact none _ (toOption_eq_some.mpr (programOn_follow_eq_ok.mpr ⟨arrived, bytes, there⟩))
    · rintro none ⟨trail, behaviour⟩ some
      obtain ⟨arrived, bytes, there⟩ := programOn_follow_eq_ok.mp (toOption_eq_some.mp some)
      exact none ⟨trail, bytes, behaviour, arrived, there⟩
  rw [programAt, if_neg bare, firstStarted_eq_ok, List.findSome?_map, List.findSome?_eq_some_iff]
  simp only [Function.comp_apply, toOption_eq_some, programOn_follow_eq_ok, refused]

theorem follow_eq_ok {here place : Trail} {s : Text} :
    m.follow here s = .ok place ↔
      byteCount s < pathLimit ∧ m.walk (if s.head? = some '/' then [] else here) (splitAtChar '/' s) = .ok place := by
  rw [follow]
  split
  next long => simp [Nat.not_lt.mpr long]
  next short => simp [Nat.lt_of_not_le short]

theorem walk_empty_of_walk {here place : Trail} {name : Text} (later : m.walk here [name] = .ok place) :
    m.walk here [[]] = .ok here := by
  obtain ⟨there, _⟩ := walk_cons_eq_ok.mp later
  have stays : m.walk here [] = .ok here := walk_nil_eq_ok.mpr ⟨by simp [there], rfl⟩
  exact walk_cons_eq_ok.mpr ⟨there, by decide, stays⟩

/-- A name in a searched directory is reached through that directory. -/
theorem follow_of_nameIn {here place : Trail} {directory name : Text} (bare : '/' ∉ name)
    (arrived : m.follow here (nameIn directory name) = .ok place) :
    ∃ start, m.follow here directory = .ok start ∧ m.walk start [name] = .ok place := by
  obtain ⟨short, walked⟩ := follow_eq_ok.mp arrived
  rcases nameIn_cases directory name with ⟨rfl, same⟩ | ⟨s, same, cut⟩
  · have relative : name.head? ≠ some '/' := fun h => bare (List.mem_of_head? h)
    rw [same, if_neg relative, splitAtChar_of_notMem bare] at walked
    exact ⟨here, follow_eq_ok.mpr ⟨by decide, walk_empty_of_walk walked⟩, walked⟩
  · rw [same, byteCount_append, byteCount_cons] at short
    rw [same, splitAtChar_append, splitAtChar_of_notMem bare] at walked
    obtain ⟨start, first, later⟩ := walk_append_eq_ok.mp walked
    rcases cut with ⟨rfl, some⟩ | rfl
    · have head : (directory ++ '/' :: name).head? = directory.head? := by
        cases directory with
        | nil => exact absurd rfl some
        | cons c directory => rfl
      rw [head] at first
      exact ⟨start, follow_eq_ok.mpr ⟨by omega, first⟩, later⟩
    · have head : (s ++ '/' :: name).head? = (s ++ ['/']).head? := by cases s <;> rfl
      rw [head] at first
      refine ⟨start, follow_eq_ok.mpr ⟨?_, ?_⟩, later⟩
      · rw [byteCount_append]
        omega
      · rw [splitAtChar_append]
        exact walk_append_eq_ok.mpr ⟨start, first, walk_empty_of_walk later⟩

/-- The directory from which a path is followed when the file that it names is started: the one in which the
program is to run, and for a name without a directory the first searched one that has such a file. -/
inductive StartsFrom (m : Machine) (here : Trail) (p : Path) : Trail → Prop
  | written {trail : Trail} : '/' ∈ p.text → m.locate here p = .ok trail → StartsFrom m here p here
  | searched {front behind : List Text} {directory : Text} {start : Trail} : '/' ∉ p.text →
    m.searched = front ++ directory :: behind → (∀ other ∈ front, ¬m.Offers here p.text other) →
    m.Offers here p.text directory → m.follow here directory = .ok start → StartsFrom m here p start

/-- What is offered in a directory is where the names of the path land below it. -/
theorem eq_of_nameIn {here start place : Trail} {p : Path} {directory : Text} (bare : '/' ∉ p.text)
    (front : m.follow here directory = .ok start) (arrived : m.follow here (nameIn directory p.text) = .ok place) :
    place = start.above (climb p.names) ++ landing p.names := by
  obtain ⟨start', front', walked⟩ := follow_of_nameIn bare arrived
  obtain rfl := Except.ok.inj (front'.symm.trans front)
  have landed := eq_of_walk walked
  rcases Path.bare_of_slash_notMem bare with ⟨none, dot⟩ | name
  · rw [dot] at landed
    rwa [none]
  · rwa [name]

variable {here : Trail} {p : Path}

/-- From wherever a relative path is followed, what is tried is the entry where its names land. -/
theorem StartsFrom.programAt {start : Trail} (found : m.StartsFrom here p start) (relative : p.isAbsolute = false) :
    m.programAt here p = m.programOn (start.above (climb p.names) ++ landing p.names) := by
  cases found with
  | @written trail slash arrived =>
    have walked := (locate_eq_ok.mp arrived).2
    rw [relative, if_neg Bool.false_ne_true] at walked
    rw [Machine.programAt, if_pos slash, arrived, ← eq_of_walk walked]
    rfl
  | @searched front behind directory _ bare split refused offered reached =>
    obtain ⟨trail, bytes, behaviour, arrived, there⟩ := offered
    have runs := (programAt_of_bare bare).mpr ⟨front, directory, behind, split, ⟨arrived, bytes, there⟩, refused⟩
    rw [runs, ← eq_of_nameIn bare reached arrived]
    exact (programOn_eq_ok.mpr ⟨rfl, bytes, there⟩).symm

theorem startsFrom_of_programAt {trail : Trail} {behaviour : Behaviour}
    (runs : m.programAt here p = .ok (trail, behaviour)) : ∃ start, m.StartsFrom here p start := by
  by_cases slash : '/' ∈ p.text
  · rw [Machine.programAt, if_pos slash, bind_eq_ok] at runs
    obtain ⟨place, arrived, _⟩ := runs
    exact ⟨here, .written slash arrived⟩
  · obtain ⟨front, directory, behind, split, ⟨arrived, bytes, there⟩, refused⟩ := (programAt_of_bare slash).mp runs
    obtain ⟨start, reached, _⟩ := follow_of_nameIn slash arrived
    exact ⟨start, .searched slash split refused ⟨trail, bytes, behaviour, arrived, there⟩ reached⟩

end Machine

end BasicWorkbench
