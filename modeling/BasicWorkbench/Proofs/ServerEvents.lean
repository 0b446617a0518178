import BasicWorkbench.Servers

namespace BasicWorkbench

def ClientMessage.compileJob? : ClientMessage → Option CompileJob
  | .command name arguments =>
    if name = ServerState.compileCommandName then
      (compileTarget? arguments).bind fun target => (CompileJob.ofTarget target).toOption
    else none
  | _ => none

/-- What happens to a server. A message is handled to its end, a compile run included if it asks for
one; or the run goes on beside other messages, and its beginning and its end are two events. A run
is called by the number of events in front of its beginning. -/
inductive ServerEvent where
  | heard (m : Machine) (env : Environment) (message : ClientMessage)
  | began (job : CompileJob)
  | ended (start : Nat) (job : CompileJob) (result : Except Fault (Verdict × Text))

def ServerEvent.news? : ServerEvent → Option Text
  | .heard _ _ (.changed uri _) | .heard _ _ (.closed uri) => some uri
  | _ => none

theorem ServerEvent.news?_cases {event : ServerEvent} {uri : Text} (h : event.news? = some uri) :
    ∃ m env, (∃ edits, event = .heard m env (.changed uri edits)) ∨ event = .heard m env (.closed uri) := by
  unfold news? at h
  split at h
  next m env other edits =>
    cases Option.some.inj h
    exact ⟨m, env, .inl ⟨edits, rfl⟩⟩
  next m env other =>
    cases Option.some.inj h
    exact ⟨m, env, .inr rfl⟩
  next => simp at h

structure CompileRun where
  job : CompileJob
  result : Except Fault (Verdict × Text)

/-- The diagnostics that a message of the server shows, and the URI for which it shows them. -/
def ServerMessage.shown? : ServerMessage → Option (Text × List Diagnostic)
  | .publish uri diagnostics => some (uri, diagnostics)
  | _ => none

def shownIn (sent : List ServerMessage) : List (Text × List Diagnostic) :=
  sent.filterMap ServerMessage.shown?

namespace ServerState

def react (s : ServerState) : ServerEvent → ServerState × List ServerMessage
  | .heard m env message => ((s.receive m env message).state, (s.receive m env message).sent)
  | .began _ => (s, [])
  | .ended _ job result => ((s.onCompiled job result).state, (s.onCompiled job result).messages true)

/-- The compile run that ends with an event. A server that was shut down begins none for a message. -/
def run? (s : ServerState) : ServerEvent → Option CompileRun
  | .heard m _ message =>
    if s.stopped then none
    else message.compileJob?.map fun job => ⟨job, (compileProgram m s.settings (.ofText job.path)).2⟩
  | .began _ => none
  | .ended _ job result => some ⟨job, result⟩

theorem run?_cases {s : ServerState} {event : ServerEvent} {run : CompileRun}
    (h : s.run? event = some run) :
    (∃ start, event = .ended start run.job run.result) ∨
      ∃ m env name arguments, event = .heard m env (.command name arguments) := by
  cases event with
  | began job => simp [run?] at h
  | ended start job result =>
    cases Option.some.inj h
    exact .inl ⟨start, rfl⟩
  | heard m env message =>
    cases message with
    | command name arguments => exact .inr ⟨m, env, name, arguments, rfl⟩
    | _ => simp [run?, ClientMessage.compileJob?] at h

end ServerState

/-- An event and the state in which it met the server. -/
structure Moment where
  before : ServerState
  event : ServerEvent

/-- Something came about and was not undone since, where the latest moment stands in front. -/
def Since (made undone : Moment → Prop) : List Moment → Prop
  | [] => False
  | x :: past => made x ∨ ¬undone x ∧ Since made undone past

theorem since_or (made other undone : Moment → Prop) (past : List Moment) :
    Since (fun x => made x ∨ other x) undone past ↔ Since made undone past ∨ Since other undone past := by
  induction past with
  | nil => simp [Since]
  | cons x past ih =>
    simp only [Since, ih]
    rw [and_or_left, or_or_or_comm]

/-- What came about and was not undone has a moment, and no later one undid it. -/
theorem since_iff_split {made undone : Moment → Prop} {past : List Moment} :
    Since made undone past ↔
      ∃ later x earlier, past = later ++ x :: earlier ∧ made x ∧ ∀ y ∈ later, ¬undone y := by
  induction past with
  | nil => simp [Since]
  | cons first past ih =>
    rw [Since, ih]
    constructor
    · intro h
      rcases h with here | ⟨kept, later, x, earlier, rfl, hx, hl⟩
      · exact ⟨[], first, past, rfl, here, by simp⟩
      · exact ⟨first :: later, x, earlier, rfl, hx, List.forall_mem_cons.mpr ⟨kept, hl⟩⟩
    · intro h
      obtain ⟨later, x, earlier, eq, hx, hl⟩ := h
      cases later with
      | nil =>
        obtain ⟨rfl, rfl⟩ := List.cons.inj eq
        exact .inl hx
      | cons y later =>
        obtain ⟨rfl, rfl⟩ := List.cons.inj eq
        obtain ⟨kept, hl⟩ := List.forall_mem_cons.mp hl
        exact .inr ⟨kept, later, x, earlier, rfl, hx, hl⟩

/-- The runs that have begun and not ended, where the latest moment stands in front. -/
def runsUnderWay : List Moment → List (Nat × CompileJob)
  | [] => []
  | x :: past =>
    match x.event with
    | .heard _ _ _ => runsUnderWay past
    | .began job => (past.length, job) :: runsUnderWay past
    | .ended start job _ => (runsUnderWay past).erase (start, job)

theorem began_of_mem_runsUnderWay {past : List Moment} {start : Nat} {job : CompileJob}
    (h : (start, job) ∈ runsUnderWay past) :
    ∃ later s before, past = later ++ ⟨s, .began job⟩ :: before ∧ before.length = start := by
  induction past with
  | nil => simp [runsUnderWay] at h
  | cons x past ih =>
    obtain ⟨s, event⟩ := x
    have earlier : (start, job) ∈ runsUnderWay past →
        ∃ later t before, ⟨s, event⟩ :: past = later ++ ⟨t, .began job⟩ :: before ∧
          before.length = start := by
      intro h
      obtain ⟨later, t, before, rfl, hb⟩ := ih h
      exact ⟨⟨s, event⟩ :: later, t, before, rfl, hb⟩
    cases event with
    | heard m env message => exact earlier h
    | ended first other result => exact earlier (List.mem_of_mem_erase h)
    | began other =>
      rcases List.mem_cons.mp h with eq | h
      · obtain ⟨rfl, rfl⟩ := Prod.mk.inj eq
        exact ⟨[], s, past, rfl, rfl⟩
      · exact earlier h

/-- Whether an event can come after the past: only a run that is under way can end. -/
def CanFollow (past : List Moment) : ServerEvent → Prop
  | .ended start job _ => (start, job) ∈ runsUnderWay past
  | _ => True

/-- The moments of a server since it was made, the latest in front, and its state after them. Machine
and environment may be others at every message. -/
inductive Session : List Moment → ServerState → Prop
  | start (env : Environment) : Session [] (.fresh env)
  | next {past s} (event : ServerEvent) : Session past s → CanFollow past event →
      Session (⟨s, event⟩ :: past) (s.react event).1

theorem Session.earlier {later earlier : List Moment} {x : Moment} {s : ServerState}
    (session : Session (later ++ x :: earlier) s) :
    Session earlier x.before ∧ CanFollow earlier x.event := by
  induction later generalizing s with
  | nil =>
    cases session with
    | next event previous follows => exact ⟨previous, follows⟩
  | cons y later ih =>
    cases session with
    | next event previous _ => exact ih previous

end BasicWorkbench
