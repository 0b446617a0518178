import BasicWorkbench.Proofs.StepFrames

namespace BasicWorkbench

namespace Moment

/-- A document is opened under the URI, and the workspace takes it. -/
def Opens (x : Moment) (uri : Text) : Prop :=
  x.IsHeeded ∧ ∃ m env text, x.event = .heard m env (.opened uri text)

/-- A document is closed under the URI, and the workspace takes it. -/
def Closes (x : Moment) (uri : Text) : Prop :=
  x.IsHeeded ∧ ∃ m env, x.event = .heard m env (.closed uri)

/-- A message that does not open the document of the URI needs its text, and there is one: that of the
editor or, for a document that is not open, that of a file. -/
def Reads (x : Moment) (uri : Text) : Prop :=
  match x.event with
  | .heard m _ (.changed other edits) =>
    other = uri ∧ x.before.stopped = false ∧
      ∃ t text, x.before.Takes (.changed uri edits) t ∧ t.documentText m uri = .ok text
  | .heard m _ (.saved other) | .heard m _ (.completion other _) | .heard m _ (.outline other) =>
    other = uri ∧ x.before.stopped = false ∧ ∃ text, x.before.documentText m uri = .ok text
  | _ => False

end Moment

namespace ServerState

theorem mem_keys_analyze (s : ServerState) (uri text other : Text) :
    other ∈ (s.analyze uri text).analyzers.keys ↔ uri = other ∨ other ∈ s.analyzers.keys := by
  simp only [OrderedMap.mem_keys_iff, analyze, OrderedMap.find?_insert]
  by_cases h : uri = other <;> simp [h]

theorem mem_keys_analyzeAll {s : ServerState} {read : List (Text × Text)}
    (known : ∀ uri ∈ read.map (·.1), uri ∈ s.analyzers.keys) (uri : Text) :
    uri ∈ (s.analyzeAll read).analyzers.keys ↔ uri ∈ s.analyzers.keys := by
  by_cases h : uri ∈ read.map (·.1)
  · obtain ⟨text, _, eq⟩ := s.find?_analyzeAll_of_mem h
    simp [OrderedMap.mem_keys_iff (s.analyzeAll read).analyzers, eq, known uri h]
  · rw [OrderedMap.mem_keys_iff, OrderedMap.mem_keys_iff, s.find?_analyzeAll_of_not_mem h]

theorem Ignores.mem_keys_of_reads {s : ServerState} {event : ServerEvent} (ignores : s.Ignores event)
    {uri : Text} (reads : Moment.Reads ⟨s, event⟩ uri) : uri ∈ s.analyzers.keys := by
  unfold Moment.Reads at reads
  dsimp only at reads
  split at reads
  next m env other edits =>
    obtain ⟨rfl, running, t, text, taken, read⟩ := reads
    obtain ⟨document, found, _⟩ := documentText_eq_ok.mp read
    rcases ignores with stopped | refused
    · simp [running] at stopped
    · exact absurd ⟨t, document, taken, found⟩ refused
  next m env other =>
    obtain ⟨rfl, running, text, read⟩ := reads
    rcases ignores with stopped | ⟨f, failed⟩
    · simp [running] at stopped
    · simp [read] at failed
  next m env other position =>
    obtain ⟨rfl, running, text, read⟩ := reads
    rcases ignores with stopped | known | ⟨f, failed⟩
    · simp [running] at stopped
    · exact (OrderedMap.mem_keys_iff _ _).mpr known
    · simp [read] at failed
  next m env other =>
    obtain ⟨rfl, running, text, read⟩ := reads
    rcases ignores with stopped | known | ⟨f, failed⟩
    · simp [running] at stopped
    · exact (OrderedMap.mem_keys_iff _ _).mpr known
    · simp [read] at failed
  next => exact reads.elim

/-- After an event there is an analyzer for the documents that it opens or reads, and for those that had one
and are not closed by it. -/
theorem Step.mem_keys_iff {s t : ServerState} {event : ServerEvent}
    {shown : List (Text × List Diagnostic)} (step : Step s event t shown) (uri : Text) :
    uri ∈ t.analyzers.keys ↔ (Moment.Opens ⟨s, event⟩ uri ∨ Moment.Reads ⟨s, event⟩ uri) ∨
      ¬Moment.Closes ⟨s, event⟩ uri ∧ uri ∈ s.analyzers.keys := by
  cases step with
  | still ignores =>
    have opens : ¬Moment.Opens ⟨s, event⟩ uri := fun opens => ignores.not_heeded opens.1
    have closes : ¬Moment.Closes ⟨s, event⟩ uri := fun closes => ignores.not_heeded closes.1
    have reads : Moment.Reads ⟨s, event⟩ uri → uri ∈ s.analyzers.keys := ignores.mem_keys_of_reads
    grind
  | greeted _ _ _ => simp [Moment.Opens, Moment.Reads, Moment.Closes]
  | left _ => simp [Moment.Opens, Moment.Reads, Moment.Closes]
  | @opened m env other text t running taken =>
    have heeded : Moment.IsHeeded ⟨s, .heard m env (.opened other text)⟩ := ⟨running, t, taken⟩
    rw [mem_keys_analyze, taken.frame.2.1]
    simp [Moment.Opens, Moment.Reads, Moment.Closes, heeded]
  | @changed m env other edits t text running taken read =>
    have reads : Moment.Reads ⟨s, .heard m env (.changed other edits)⟩ uri ↔ other = uri :=
      ⟨And.left, by rintro rfl; exact ⟨rfl, running, t, text, taken, read⟩⟩
    rw [mem_keys_analyze, reads, forgetFindings, taken.frame.2.1]
    simp [Moment.Opens, Moment.Closes]
  | @unread m env other edits t document fault running taken found failed =>
    have reads : ¬Moment.Reads ⟨s, .heard m env (.changed other edits)⟩ uri := by
      intro reads
      obtain ⟨rfl, _, t', text, taken', read⟩ := reads
      obtain rfl := taken.unique taken'
      obtain ⟨document', found', read'⟩ := documentText_eq_ok.mp read
      obtain rfl : document = document' := Except.ok.inj (found.symm.trans found')
      simp [failed] at read'
    simp [reads, forgetFindings, taken.frame.2.1, Moment.Opens, Moment.Closes]
  | @saved m env other text running read =>
    have reads : Moment.Reads ⟨s, .heard m env (.saved other)⟩ uri ↔ other = uri :=
      ⟨And.left, by rintro rfl; exact ⟨rfl, running, text, read⟩⟩
    rw [mem_keys_analyze, reads]
    simp [Moment.Opens, Moment.Closes]
  | @closed m env other t running taken =>
    have heeded : Moment.IsHeeded ⟨s, .heard m env (.closed other)⟩ := ⟨running, t, taken⟩
    simp only [Moment.Opens, Moment.Reads, Moment.Closes, OrderedMap.mem_keys_iff, forgetFindings,
      OrderedMap.find?_erase, taken.frame.2.1, heeded]
    by_cases h : other = uri <;> simp [h]
  | @asked m env message other text running named unknown read =>
    have reads : Moment.Reads ⟨s, .heard m env message⟩ uri ↔ other = uri := by
      rcases named with ⟨position, rfl⟩ | rfl
      · exact ⟨And.left, by rintro rfl; exact ⟨rfl, running, text, read⟩⟩
      · exact ⟨And.left, by rintro rfl; exact ⟨rfl, running, text, read⟩⟩
    rw [mem_keys_analyze, reads]
    rcases named with ⟨position, rfl⟩ | rfl
    · simp [Moment.Opens, Moment.Closes]
    · simp [Moment.Opens, Moment.Closes]
  | configured _ given eq _ all =>
    subst eq
    rw [mem_keys_analyzeAll]
    · simp [Moment.Opens, Moment.Reads, Moment.Closes]
    · intro other hm
      rw [all] at hm
      exact (List.takeWhile_sublist _).subset hm
  | notebook _ => simp [Moment.Opens, Moment.Reads, Moment.Closes]
  | @ran _ run held hr hf =>
    rw [(s.keep_frame run.job.uri held).2.1]
    rcases run?_cases hr with ⟨start, rfl⟩ | ⟨m, env, name, arguments, rfl⟩
    · simp [Moment.Opens, Moment.Reads, Moment.Closes]
    · simp [Moment.Opens, Moment.Reads, Moment.Closes]

/-- A change of the configuration that can be read analyzes documents again and shows them. -/
theorem configured_cases {s : ServerState} {m : Machine} (env : Environment) {configuration : Json}
    {settings : Settings} (running : s.stopped = false)
    (given : Settings.ofConfiguration configuration = .ok settings) :
    let t : ServerState := { s with settings := settings.resolve env }
    let after := s.react (.heard m env (.configured configuration))
    ∃ read : List (Text × Text), (∀ document ∈ read, t.documentText m document.1 = .ok document.2) ∧
      read.map (·.1) = s.analyzers.keys.takeWhile (fun uri => (t.documentText m uri).isOk) ∧
      after.1 = t.analyzeAll read ∧
      shownIn after.2 =
        read.map fun document => (document.1, (t.analyze document.1 document.2).shownFor document.1) := by
  intro t after
  have step : Step s _ after.1 (shownIn after.2) := s.step_react (.heard m env (.configured configuration))
  generalize after.1 = u at step ⊢
  generalize shownIn after.2 = shown at step ⊢
  cases step with
  | still ignores =>
    rcases ignores with stopped | ⟨f, refused⟩
    · simp [running] at stopped
    · simp [given] at refused
  | asked _ named _ _ =>
    rcases named with ⟨position, h⟩ | h
    · simp at h
    · simp at h
  | ran hr _ => simp [run?, ClientMessage.compileJob?] at hr
  | @configured _ _ _ settings' t' read _ given' eq texts all =>
    obtain rfl : settings' = settings := Except.ok.inj (given'.symm.trans given)
    subst eq
    exact ⟨read, texts, all, rfl, rfl⟩

/-- A change of the configuration shows the documents with an analyzer, up to one that cannot be read. -/
theorem shown_of_configured {s : ServerState} {m : Machine} {env : Environment} {configuration : Json}
    {settings : Settings} (running : s.stopped = false)
    (given : Settings.ofConfiguration configuration = .ok settings) :
    (shownIn (s.react (.heard m env (.configured configuration))).2).map (·.1) =
      s.analyzers.keys.takeWhile fun uri => (s.documentText m uri).isOk := by
  obtain ⟨read, _, all, _, shown⟩ := configured_cases (m := m) env running given
  rw [shown, List.map_map]
  exact all

end ServerState

/-- The document of the URI was opened and not closed since. -/
def IsOpen (uri : Text) : List Moment → Prop := Since (·.Opens uri) (·.Closes uri)

/-- The document of the URI was read for a message other than its opening and not closed since. -/
def WasRead (uri : Text) : List Moment → Prop := Since (·.Reads uri) (·.Closes uri)

theorem Session.mem_keys {past : List Moment} {s : ServerState} (session : Session past s)
    (uri : Text) :
    uri ∈ s.analyzers.keys ↔ Since (fun x => x.Opens uri ∨ x.Reads uri) (·.Closes uri) past := by
  induction session with
  | start env => simp [ServerState.fresh, OrderedMap.keys, Since]
  | @next past s event _ _ ih =>
    rw [(s.step_react event).mem_keys_iff uri, ih]
    rfl

/-- There is an analyzer for every open document, and for every other document that was read and not closed
since; a change of the configuration shows them all, up to one that cannot be read any more. -/
theorem cached_iff_open_or_read {past : List Moment} {s : ServerState} (session : Session past s) :
    (∀ uri, uri ∈ s.analyzers.keys ↔ IsOpen uri past ∨ WasRead uri past) ∧
      ∀ m env configuration settings, s.stopped = false →
        Settings.ofConfiguration configuration = .ok settings →
        (shownIn (s.react (.heard m env (.configured configuration))).2).map (·.1) =
          s.analyzers.keys.takeWhile fun uri => (s.documentText m uri).isOk := by
  constructor
  · intro uri
    rw [session.mem_keys uri, since_or]
    rfl
  · intro m env configuration settings running given
    exact ServerState.shown_of_configured running given

/-- The outline of a file that was never opened gives it an analyzer, and a change of the configuration
shows its diagnostics. -/
theorem cached_without_open_after_outline :
    ∃ past s uri m env configuration, Session past s ∧ ¬IsOpen uri past ∧ uri ∈ s.analyzers.keys ∧
      uri ∈ (shownIn (s.react (.heard m env (.configured configuration))).2).map (·.1) := by
  let disk : Machine := ⟨[([['p']], .file [] .denied)], [], []⟩
  let greeting : ServerEvent := .heard disk [] (.greeting ⟨.null, none, none, [], false, false⟩)
  let outline : ServerEvent := .heard disk [] (.outline "file:/p")
  have session := Session.next outline (.next greeting (.start []) trivial) trivial
  obtain ⟨cached, shown⟩ := cached_iff_open_or_read session
  have read : WasRead "file:/p"
      [⟨((ServerState.fresh []).react greeting).1, outline⟩, ⟨.fresh [], greeting⟩] :=
    .inl ⟨rfl, rfl, [], rfl⟩
  refine ⟨_, _, "file:/p", disk, [], .null, session, ?_, (cached _).mpr (.inr read), ?_⟩
  · simp [IsOpen, Since, Moment.Opens, outline, greeting]
  · rw [shown disk [] .null .initial rfl rfl]
    exact .head _

end BasicWorkbench
