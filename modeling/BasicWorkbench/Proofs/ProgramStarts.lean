import BasicWorkbench.Proofs.CompilerRuns
import BasicWorkbench.Proofs.ProgramSearches

namespace BasicWorkbench

/-- The file that is started for a compiled program, in the directory that is written in front of it. -/
def startProgram (m : Machine) (program : Path) : Except Fault (Trail × Behaviour) := do
  if !(← m.hasEntry program) then .error (.tool (.sourceMissing program.text))
  else
    let refused (cause : SystemCause) : Fault :=
      .tool (.programStart program.text ⟨cause, program.text⟩)
    let here ← (m.locate m.cwd program.parent).mapError refused
    (m.programAt here program).mapError refused

theorem launchProgram_eq (m : Machine) (program : Path) :
    launchProgram m program = (·.2.exitCode) <$> startProgram m program := by
  unfold launchProgram startProgram
  cases m.hasEntry program with
  | error f => rfl
  | ok there =>
    cases there with
    | false => rfl
    | true =>
      cases m.locate m.cwd program.parent with
      | error cause => rfl
      | ok here => cases m.programAt here program <;> rfl

/-- A path leads from a directory to the entry to which it leads from the working directory: it is an absolute
one, or the directory from which it is followed is the working directory, or another one as many levels below the
directory to which the path climbs. -/
def Machine.LeadsAlike (m : Machine) (here : Trail) (p : Path) : Prop :=
  p.isAbsolute = true ∨
    ∃ start, m.StartsFrom here p start ∧ start.above (climb p.names) = m.cwd.above (climb p.names)

/-- What is started is the file that was checked, exactly under a condition: whenever a file is started, and in
any case if the checked one can be. -/
structure StartsAsChecked (started : Except Fault Trail) (place : Trail) (node : Node) (alike : Prop) : Prop where
  same : ∀ trail, started = .ok trail → (trail = place ↔ alike)
  starts : ∀ bytes behaviour, node = .file bytes (.works behaviour) → (started = .ok place ↔ alike)

namespace Machine

variable {m : Machine}

theorem eq_of_locate {p : Path} {place : Trail} (arrived : m.locate m.cwd p = .ok place)
    (relative : p.isAbsolute = false) : place = m.cwd.above (climb p.names) ++ landing p.names := by
  have walked := (locate_eq_ok.mp arrived).2
  rw [relative, if_neg Bool.false_ne_true] at walked
  exact eq_of_walk walked

/-- Of a path that leads alike the checked entry is tried. -/
theorem LeadsAlike.programAt {here place : Trail} {p : Path} (alike : m.LeadsAlike here p)
    (checked : m.locate m.cwd p = .ok place) : m.programAt here p = m.programOn place := by
  cases absolute : p.isAbsolute with
  | true =>
    have same : m.locate here p = .ok place := by rw [← checked]; simp [locate, absolute]
    rw [Machine.programAt, if_pos (Path.slash_mem_text absolute), same]
    rfl
  | false =>
    obtain ⟨start, found, same⟩ := alike.resolve_left (by simp [absolute])
    rw [found.programAt absolute, same, ← eq_of_locate checked absolute]

/-- If the checked entry is started, the path leads alike. -/
theorem leadsAlike_of_programAt {here place : Trail} {p : Path} {behaviour : Behaviour}
    (checked : m.locate m.cwd p = .ok place) (runs : m.programAt here p = .ok (place, behaviour)) :
    m.LeadsAlike here p := by
  cases absolute : p.isAbsolute with
  | true => exact .inl absolute
  | false =>
    obtain ⟨start, found⟩ := startsFrom_of_programAt runs
    rw [found.programAt absolute] at runs
    have landed := (programOn_eq_ok.mp runs).1
    rw [eq_of_locate checked absolute, List.append_left_inj] at landed
    exact .inr ⟨start, found, landed.symm⟩

theorem startsAsChecked_of_programAt {here place : Trail} {p : Path} {node : Node}
    {started : Except Fault Trail} (found : m.find p = .ok (some (place, node)))
    (attempt : ∀ trail, started = .ok trail ↔ ∃ behaviour, m.programAt here p = .ok (trail, behaviour)) :
    StartsAsChecked started place node (m.LeadsAlike here p) := by
  obtain ⟨checked, there⟩ := locate_of_find found
  have same (trail : Trail) (began : started = .ok trail) : trail = place ↔ m.LeadsAlike here p := by
    obtain ⟨behaviour, runs⟩ := (attempt trail).mp began
    constructor
    · rintro rfl
      exact leadsAlike_of_programAt checked runs
    · intro alike
      rw [alike.programAt checked] at runs
      exact (programOn_eq_ok.mp runs).1
  refine ⟨same, fun bytes behaviour works => ⟨fun began => (same place began).mp rfl, fun alike => ?_⟩⟩
  have runs : m.programAt here p = .ok (place, behaviour) := by
    rw [alike.programAt checked]
    exact programOn_eq_ok.mpr ⟨rfl, bytes, works ▸ there⟩
  exact (attempt place).mpr ⟨behaviour, runs⟩

end Machine

/-- The compiler that was started is where it was found, from the directory of the source. -/
theorem runCompiler_compiler_eq_ok {m : Machine} {settings : Settings} {source : Path} {trail place : Trail}
    (exist : sourceTrail m (.ofText settings.compilerPath) source = .ok trail) :
    (·.compiler) <$> runCompiler m settings source = .ok place ↔
      ∃ behaviour, m.programAt trail.dropLast (.ofText settings.compilerPath) = .ok (place, behaviour) := by
  simp only [runCompiler, exist, map_eq_ok]
  cases m.programAt trail.dropLast (.ofText settings.compilerPath) with
  | error cause => simp
  | ok started => simp [Prod.ext_iff]

theorem startProgram_eq_ok {m : Machine} {program : Path} {here place : Trail}
    (there : m.hasEntry program = .ok true) (located : m.locate m.cwd program.parent = .ok here) :
    (·.1) <$> startProgram m program = .ok place ↔
      ∃ behaviour, m.programAt here program = .ok (place, behaviour) := by
  have attempt : startProgram m program = (m.programAt here program).mapError fun cause =>
      .tool (.programStart program.text ⟨cause, program.text⟩) := by
    unfold startProgram
    rw [there, located]
    rfl
  rw [attempt]
  simp [map_eq_ok, mapError_eq_ok]

theorem Machine.locate_parent {m : Machine} {p : Path} {place : Trail} (arrived : m.locate m.cwd p = .ok place) :
    ∃ here, m.locate m.cwd p.parent = .ok here := by
  obtain ⟨short, walked⟩ := locate_eq_ok.mp arrived
  have shorter := p.byteCount_text_parent
  have limit : pathLimit = 4096 := rfl
  have above : ∃ here, m.walk (if p.isAbsolute then [] else m.cwd) p.names.dropLast = .ok here := by
    cases names : p.names with
    | nil =>
      rw [names] at walked
      exact ⟨place, walked⟩
    | cons name rest =>
      have split := List.dropLast_concat_getLast (show p.names ≠ [] by simp [names])
      rw [← split] at walked
      obtain ⟨here, first, _⟩ := walk_append_eq_ok.mp walked
      rw [names] at first
      exact ⟨here, first⟩
  obtain ⟨here, first⟩ := above
  exact ⟨here, locate_eq_ok.mpr ⟨by omega, first⟩⟩

/-- The file whose existence is checked, seen from the working directory, is not always the one that is
started, seen from the directory of the source or of the program or found by a search. It is exactly if the
path leads to one entry both times. -/
theorem started_as_checked_iff (m : Machine) :
    (∀ settings source trail, sourceTrail m (.ofText settings.compilerPath) source = .ok trail →
      ∃ place node, m.find (.ofText settings.compilerPath) = .ok (some (place, node)) ∧
        StartsAsChecked ((·.compiler) <$> runCompiler m settings source) place node
          (m.LeadsAlike trail.dropLast (.ofText settings.compilerPath))) ∧
      ∀ program place node, m.find program = .ok (some (place, node)) →
        ∃ here, m.locate m.cwd program.parent = .ok here ∧
          StartsAsChecked ((·.1) <$> startProgram m program) place node (m.LeadsAlike here program) := by
  constructor
  · intro settings source trail exist
    have there : m.hasEntry (.ofText settings.compilerPath) = .ok true := by
      unfold sourceTrail at exist
      obtain ⟨there, found, later⟩ := bind_eq_ok.mp exist
      cases there with
      | true => exact found
      | false => contradiction
    obtain ⟨place, node, found⟩ := Machine.hasEntry_eq_true.mp there
    exact ⟨place, node, found,
      Machine.startsAsChecked_of_programAt found fun _ => runCompiler_compiler_eq_ok exist⟩
  · intro program place node found
    obtain ⟨here, located⟩ := Machine.locate_parent (Machine.locate_of_find found).1
    have there := Machine.hasEntry_eq_true.mpr ⟨place, node, found⟩
    exact ⟨here, located,
      Machine.startsAsChecked_of_programAt found fun _ => startProgram_eq_ok there located⟩

/-- A machine with a program `c` in the working directory, one below it, and another one below the directory of a
source. -/
def Machine.withTwins (searched : List Text) : Machine :=
  let program : Node := .file [] (.works ⟨false, [], [], 0, []⟩)
  ⟨[([['w']], .directory), ([['w'], ['c']], program), ([['w'], ['t']], .directory), ([['w'], ['t'], ['c']], program),
    ([['w'], ['s']], .directory), ([['w'], ['s'], ['p']], .file [] .denied),
    ([['w'], ['s'], ['t']], .directory), ([['w'], ['s'], ['t'], ['c']], program)], [['w']], searched⟩

/-- Of a compiler with a relative path one file is checked and the other one started; a program with that path is
checked and not started at all. A compiler that is named without a directory is the checked one if the search
comes to the working directory first. -/
theorem twin_started :
    let twins := Machine.withTwins
    let started (m : Machine) (path : Text) :=
      (·.compiler) <$> runCompiler m { Settings.initial with compilerPath := path } ⟨0, [['s'], ['p']]⟩
    (∃ place node trail, (twins []).find (.ofText "t/c") = .ok (some (place, node)) ∧
        started (twins []) "t/c" = .ok trail ∧ trail ≠ place) ∧
      (∃ place node, (twins []).find (.ofText "t/c") = .ok (some (place, node)) ∧
        (·.1) <$> startProgram (twins []) (.ofText "t/c") ≠ .ok place) ∧
      ∃ place node, (twins ["/w/s", "/w"]).find (.ofText "c") = .ok (some (place, node)) ∧
        started (twins ["/w/s", "/w"]) "c" = .ok place ∧ started (twins ["/w/t", "/w"]) "c" ≠ .ok place := by
  intro twins started
  have apart (here : Trail) (other : here ≠ [['w']]) : ¬(twins []).LeadsAlike here (.ofText "t/c") := by
    rintro (absolute | ⟨start, found, same⟩)
    · exact nomatch absolute
    · cases found with
      | written =>
        rw [show climb (Path.ofText "t/c").names = 0 by rfl] at same
        exact other (show here = (twins []).cwd by simpa [Trail.above] using same)
      | searched bare => exact bare (by decide)
  obtain ⟨compile, launch⟩ := started_as_checked_iff (twins [])
  refine ⟨?_, ?_, ?_⟩
  · obtain ⟨place, node, found, checked⟩ := compile { Settings.initial with compilerPath := "t/c" }
      ⟨0, [['s'], ['p']]⟩ [['w'], ['s'], ['p']] (by rfl)
    have other : started (twins []) "t/c" = .ok [['w'], ['s'], ['t'], ['c']] := by rfl
    exact ⟨place, node, _, found, other,
      fun same => apart [['w'], ['s']] (by decide) ((checked.same _ other).mp same)⟩
  · have found : (twins []).find (.ofText "t/c") = .ok (some ([['w'], ['t'], ['c']],
        .file [] (.works ⟨false, [], [], 0, []⟩))) := by rfl
    obtain ⟨here, located, checked⟩ := launch _ _ _ found
    obtain rfl : [['w'], ['t']] = here := by
      have front : (twins []).locate (twins []).cwd (Path.parent (.ofText "t/c")) = .ok [['w'], ['t']] := by rfl
      exact Except.ok.inj (front.symm.trans located)
    exact ⟨_, _, found, fun began => apart [['w'], ['t']] (by decide) ((checked.starts _ _ rfl).mp began)⟩
  · obtain ⟨searching, _⟩ := started_as_checked_iff (twins ["/w/s", "/w"])
    obtain ⟨place, node, found, checked⟩ := searching { Settings.initial with compilerPath := "c" }
      ⟨0, [['s'], ['p']]⟩ [['w'], ['s'], ['p']] (by rfl)
    have there : (twins ["/w/s", "/w"]).find (.ofText "c") = .ok (some ([['w'], ['c']],
        .file [] (.works ⟨false, [], [], 0, []⟩))) := by rfl
    obtain ⟨rfl, rfl⟩ := Prod.mk.inj (Option.some.inj (Except.ok.inj (there.symm.trans found)))
    have refused : ∀ other ∈ [String.toList "/w/s"], ¬(twins ["/w/s", "/w"]).Offers [['w'], ['s']] ['c'] other := by
      intro other hm offered
      obtain ⟨trail, _, _, arrived, _⟩ := offered
      obtain rfl := List.mem_singleton.mp hm
      have absent : (twins ["/w/s", "/w"]).follow [['w'], ['s']] (nameIn "/w/s" ['c']) = .error .notFound := by rfl
      rw [absent] at arrived
      contradiction
    have alike : (twins ["/w/s", "/w"]).LeadsAlike [['w'], ['s']] (.ofText "c") :=
      .inr ⟨[['w']], .searched (by decide) rfl refused ⟨[['w'], ['c']], [], _, by rfl, by rfl⟩ (by rfl), by rfl⟩
    have elsewhere : started (twins ["/w/t", "/w"]) "c" = .ok [['w'], ['t'], ['c']] := by rfl
    exact ⟨_, _, there, (checked.starts _ _ rfl).mpr alike,
      fun same => absurd (Except.ok.inj (elsewhere.symm.trans same)) (by decide)⟩

end BasicWorkbench
