import BasicWorkbench.Proofs.ServerEvents

namespace BasicWorkbench

def Verdict.findings : Verdict → Except Fault (Option (List Diagnostic))
  | .built _ => .ok none
  | .failed problems => some <$> problemDiagnostics problems

def CompileRun.findings? (run : CompileRun) : Option (Option (List Diagnostic)) :=
  match run.result with
  | .ok (verdict, _) => verdict.findings.toOption
  | .error _ => none

theorem CompileRun.findings?_eq_some_some {run : CompileRun} {diagnostics : List Diagnostic} :
    run.findings? = some (some diagnostics) ↔
      ∃ problems output, run.result = .ok (.failed problems, output) ∧
        problemDiagnostics problems = .ok diagnostics := by
  obtain ⟨job, fault | ⟨program | problems, output⟩⟩ := run
  · simp [findings?]
  · simp [findings?, Verdict.findings, Except.toOption]
  · simp only [findings?, Verdict.findings]
    cases hp : problemDiagnostics problems with
    | error f => simp [hp, Functor.map, Except.map, Except.toOption]
    | ok ds => simp [hp, Functor.map, Except.map, Except.toOption]

theorem mem_shownIn {sent : List ServerMessage} {uri : Text} {diagnostics : List Diagnostic} :
    (uri, diagnostics) ∈ shownIn sent ↔ .publish uri diagnostics ∈ sent := by
  unfold shownIn
  rw [List.mem_filterMap]
  constructor
  · intro h
    obtain ⟨message, hm, eq⟩ := h
    cases message <;> simp [ServerMessage.shown?] at eq
    obtain ⟨rfl, rfl⟩ := eq
    exact hm
  · intro hm
    exact ⟨_, hm, rfl⟩

theorem shownIn_messages (t : Turn) (isRequest : Bool) :
    shownIn (t.messages isRequest) = shownIn t.sent := by
  unfold Turn.messages
  rw [shownIn, List.filterMap_append]
  cases t.outcome <;> cases isRequest <;> simp [shownIn, ServerMessage.shown?]

namespace ServerState

/-- The workspace takes news of a document, which leaves the server in the state `t`. -/
def Takes (s : ServerState) (news : DocumentNews) (t : ServerState) : Prop :=
  ∃ w w', s.workspace = some w ∧ w.hear news = .ok w' ∧ t = { s with workspace := some w' }

theorem Takes.unique {s t t' : ServerState} {news : DocumentNews} (taken : s.Takes news t)
    (taken' : s.Takes news t') : t = t' := by
  obtain ⟨w, w', hw, hh, rfl⟩ := taken
  obtain ⟨v, v', hv, hh', rfl⟩ := taken'
  obtain rfl : w = v := Option.some.inj (hw.symm.trans hv)
  obtain rfl : w' = v' := Except.ok.inj (hh.symm.trans hh')
  rfl

/-- The server gets to act on the news of a document that a message brings. -/
def Heeds (s : ServerState) : ClientMessage → Prop
  | .opened uri text => ∃ t, s.Takes (.opened uri text) t
  | .changed uri edits => ∃ t document, s.Takes (.changed uri edits) t ∧ t.document uri = .ok document
  | .closed uri => ∃ t, s.Takes (.closed uri) t
  | _ => False

end ServerState

def Moment.IsHeeded (x : Moment) : Prop :=
  match x.event with
  | .heard _ _ message => x.before.stopped = false ∧ x.before.Heeds message
  | _ => False

namespace ServerState

def shownFor (s : ServerState) (uri : Text) : List Diagnostic :=
  limitDiagnostics s.settings.maxProblems (s.diagnosticsFor uri)

def shownAfterRun (s : ServerState) (uri : Text) : List Diagnostic :=
  match s.analyzers.find? uri with
  | some _ => s.shownFor uri
  | none => s.findings uri

def keep (s : ServerState) (uri : Text) : Option (List Diagnostic) → ServerState
  | none => s.forgetFindings uri
  | some diagnostics => { s with compilerDiagnostics := s.compilerDiagnostics.insert uri diagnostics }

def analyzeAll (s : ServerState) (documents : List (Text × Text)) : ServerState :=
  documents.foldl (fun s document => s.analyze document.1 document.2) s

/-- An event that leaves the server as it is and shows nothing. -/
def Ignores (s : ServerState) : ServerEvent → Prop
  | .began _ => True
  | .ended _ job result => (CompileRun.mk job result).findings? = none
  | .heard m env message =>
    s.stopped = true ∨
      match message with
      | .greeting g => ∃ f, g.checkRoot = .error f
      | .shutdown => False
      | .opened _ _ | .changed _ _ | .closed _ => ¬s.Heeds message
      | .saved uri => ∃ f, s.documentText m uri = .error f
      | .completion uri _ | .outline uri =>
        (s.analyzers.find? uri).isSome ∨ ∃ f, s.documentText m uri = .error f
      | .configured configuration => ∃ f, Settings.ofConfiguration configuration = .error f
      | .command _ _ => ∀ run, s.run? (.heard m env message) = some run → run.findings? = none
      | .notebook _ => s.workspace = none
      | .greetingDone | .resolveItem _ | .folders _ | .progressCancelled _ | .unhandled => True

theorem Ignores.not_heeded {s : ServerState} {event : ServerEvent} (ignores : s.Ignores event) :
    ¬Moment.IsHeeded ⟨s, event⟩ := by
  intro heeded
  cases event with
  | began job => exact heeded
  | ended start job result => exact heeded
  | heard m env message =>
    obtain ⟨running, heeds⟩ : s.stopped = false ∧ s.Heeds message := heeded
    rcases ignores with stopped | refused
    · simp [running] at stopped
    · cases message with
      | opened uri text => exact refused heeds
      | changed uri edits => exact refused heeds
      | closed uri => exact refused heeds
      | _ => exact heeds

/-- What an event does to the server: the state afterwards and the diagnostics that are shown. -/
inductive Step (s : ServerState) : ServerEvent → ServerState → List (Text × List Diagnostic) → Prop
  | still {event} : s.Ignores event → Step s event s []
  | greeted {m env g settings} : s.stopped = false → g.checkRoot = .ok () →
      (settings = s.settings ∨ ∃ fields, settings = (Settings.ofConfigurationFields fields).resolve env) →
      Step s (.heard m env (.greeting g))
        { s with settings := settings, workspace := some (.empty g.offer.unit) } []
  | left {m env} : s.stopped = false → Step s (.heard m env .shutdown) { s with stopped := true } []
  | opened {m env uri text t} : s.stopped = false → s.Takes (.opened uri text) t →
      Step s (.heard m env (.opened uri text)) (t.analyze uri text)
        [(uri, (t.analyze uri text).shownFor uri)]
  | changed {m env uri edits t text} : s.stopped = false → s.Takes (.changed uri edits) t →
      t.documentText m uri = .ok text →
      Step s (.heard m env (.changed uri edits)) ((t.forgetFindings uri).analyze uri text)
        [(uri, ((t.forgetFindings uri).analyze uri text).shownFor uri)]
  | unread {m env uri edits t document fault} : s.stopped = false → s.Takes (.changed uri edits) t →
      t.document uri = .ok document → document.text m = .error fault →
      Step s (.heard m env (.changed uri edits)) (t.forgetFindings uri) []
  | saved {m env uri text} : s.stopped = false → s.documentText m uri = .ok text →
      Step s (.heard m env (.saved uri)) (s.analyze uri text) [(uri, (s.analyze uri text).shownFor uri)]
  | closed {m env uri t} : s.stopped = false → s.Takes (.closed uri) t →
      Step s (.heard m env (.closed uri))
        (({ t with analyzers := t.analyzers.erase uri } : ServerState).forgetFindings uri) [(uri, [])]
  | asked {m env message uri text} : s.stopped = false →
      ((∃ position, message = .completion uri position) ∨ message = .outline uri) →
      s.analyzers.find? uri = none → s.documentText m uri = .ok text →
      Step s (.heard m env message) (s.analyze uri text) []
  | configured {m env configuration settings} {t : ServerState} {read : List (Text × Text)} :
      s.stopped = false → Settings.ofConfiguration configuration = .ok settings →
      t = { s with settings := settings.resolve env } →
      (∀ document ∈ read, t.documentText m document.1 = .ok document.2) →
      read.map (·.1) = s.analyzers.keys.takeWhile (fun uri => (t.documentText m uri).isOk) →
      Step s (.heard m env (.configured configuration)) (t.analyzeAll read)
        (read.map fun document => (document.1, (t.analyze document.1 document.2).shownFor document.1))
  | notebook {m env news w} : s.stopped = false →
      Step s (.heard m env (.notebook news)) { s with workspace := some w } []
  | ran {event run held} : s.run? event = some run → run.findings? = some held →
      Step s event (s.keep run.job.uri held)
        [(run.job.uri, (s.keep run.job.uri held).shownAfterRun run.job.uri)]

end ServerState

end BasicWorkbench
