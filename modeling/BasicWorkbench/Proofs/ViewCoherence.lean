import Mathlib.Data.List.TakeWhile
import BasicWorkbench.Proofs.EditorSessions
import BasicWorkbench.Proofs.PublicationLimits

namespace BasicWorkbench

namespace ServerState

theorem document_eq_opened {s : ServerState} {uri text : Text}
    (h : s.document uri = .ok (.opened text)) :
    ∃ w, s.workspace = some w ∧ w.documents.find? (percentDecode uri) = some text := by
  unfold document at h
  split at h
  next => simp at h
  next w hw =>
    unfold Workspace.document at h
    split at h
    next other found =>
      obtain rfl : other = text := by simpa using h
      exact ⟨w, hw, found⟩
    next => cases hp : pathOfUri uri <;> simp [hp, Functor.map, Except.map] at h

theorem heeds_changed {s : ServerState} {uri text : Text} (h : s.document uri = .ok (.opened text))
    (edits : List TextEdit) : s.Heeds (.changed uri edits) := by
  obtain ⟨w, hw, found⟩ := document_eq_opened h
  have heard : ∃ text', w.hear (.changed uri edits) =
      .ok { w with documents := OrderedMap.insert (percentDecode uri) text' w.documents } := by
    simp only [Workspace.hear, found]
    exact ⟨_, rfl⟩
  obtain ⟨text', heard⟩ := heard
  refine ⟨_, .opened text', ⟨w, _, hw, heard, rfl⟩, ?_⟩
  simp [document, Workspace.document, OrderedMap.find?_insert]

theorem heeds_closed {s : ServerState} {uri text : Text} (h : s.document uri = .ok (.opened text)) :
    s.Heeds (.closed uri) := by
  obtain ⟨w, hw, _⟩ := document_eq_opened h
  exact ⟨_, w, _, hw, rfl, rfl⟩

theorem documentText_of_opened {s : ServerState} {uri text : Text}
    (h : s.document uri = .ok (.opened text)) (m : Machine) : s.documentText m uri = .ok text :=
  documentText_eq_ok.mpr ⟨_, h, rfl⟩

/-- The server heeds whatever an editor tells of documents that it keeps. -/
theorem heeded_of_tells {s : ServerState} {texts texts' : OrderedMap Text} {m : Machine}
    {env : Environment} {message : ClientMessage} {uri : Text} (running : s.stopped = false)
    (tells : message.Tells s texts texts') (holds : s.Holds texts)
    (news : Moment.IsNews ⟨s, .heard m env message⟩ uri) :
    Moment.IsHeeded ⟨s, .heard m env message⟩ := by
  rcases ServerEvent.news?_cases news with ⟨m', env', ⟨edits, eq⟩ | eq⟩
  · cases eq
    obtain ⟨text, known⟩ := Option.isSome_iff_exists.mp tells.1
    exact ⟨running, heeds_changed (holds uri text known) edits⟩
  · cases eq
    obtain ⟨text, known⟩ := Option.isSome_iff_exists.mp tells.1
    exact ⟨running, heeds_closed (holds uri text known)⟩

theorem Ignores.texts_eq {s : ServerState} {texts texts' : OrderedMap Text} {m : Machine}
    {env : Environment} {message : ClientMessage} (ignores : s.Ignores (.heard m env message))
    (running : s.stopped = false) (tells : message.Tells s texts texts') (holds : s.Holds texts) :
    texts' = texts := by
  cases message with
  | opened uri text =>
    rcases ignores with stopped | refused
    · simp [running] at stopped
    · exact absurd tells.1 refused
  | changed uri edits =>
    have news : Moment.IsNews ⟨s, .heard m env (.changed uri edits)⟩ uri := rfl
    exact absurd (.inl ⟨news, heeded_of_tells running tells holds news⟩) (ignores.not_supersedes uri)
  | closed uri =>
    have news : Moment.IsNews ⟨s, .heard m env (.closed uri)⟩ uri := rfl
    exact absurd (.inl ⟨news, heeded_of_tells running tells holds news⟩) (ignores.not_supersedes uri)
  | saved uri | completion uri position | outline uri => exact tells.2
  | _ => exact tells

/-- The analyzers are those of the texts under the settings of the server. -/
def Analyzes (s : ServerState) (texts : OrderedMap Text) : Prop :=
  ∀ uri, s.analyzers.find? uri = (texts.find? uri).map (analysis s.settings)

theorem Analyzes.analyze {s t : ServerState} {texts : OrderedMap Text} (analyzes : s.Analyzes texts)
    (settings : t.settings = s.settings) (analyzers : t.analyzers = s.analyzers) (uri text : Text) :
    (t.analyze uri text).Analyzes (OrderedMap.insert uri text texts) := by
  intro other
  simp only [ServerState.analyze, OrderedMap.find?_insert, settings, analyzers]
  split
  · rfl
  · exact analyzes other

theorem Analyzes.insert_known {s : ServerState} {texts : OrderedMap Text} {uri text : Text}
    (known : texts.find? uri = some text) (analyzes : s.Analyzes (OrderedMap.insert uri text texts)) :
    s.Analyzes texts := by
  intro other
  rw [analyzes other, OrderedMap.find?_insert]
  split
  next h => rw [← h, known]
  next => rfl

theorem Analyzes.erase {s t : ServerState} {texts : OrderedMap Text} (analyzes : s.Analyzes texts)
    (settings : t.settings = s.settings) (analyzers : t.analyzers = s.analyzers) (uri : Text) :
    Analyzes { t with analyzers := t.analyzers.erase uri } (texts.erase uri) := by
  intro other
  simp only [OrderedMap.find?_erase, settings, analyzers]
  split
  · rfl
  · exact analyzes other

theorem Analyzes.mem_keys {s : ServerState} {texts : OrderedMap Text} (analyzes : s.Analyzes texts)
    (uri : Text) :
    uri ∈ s.analyzers.keys ↔ (texts.find? uri).isSome := by
  rw [OrderedMap.mem_keys_iff, analyzes uri]
  simp

/-- All documents are read if those with an analyzer are the ones that the editor has open. -/
theorem takeWhile_keys {s t : ServerState} {texts : OrderedMap Text} (m : Machine)
    (analyzes : s.Analyzes texts) (holds : t.Holds texts) :
    s.analyzers.keys.takeWhile (fun uri => (t.documentText m uri).isOk) = s.analyzers.keys := by
  apply List.takeWhile_eq_self_iff.mpr
  intro uri hm
  obtain ⟨text, known⟩ := Option.isSome_iff_exists.mp ((analyzes.mem_keys uri).mp hm)
  rw [documentText_of_opened (holds uri text known) m]
  rfl

theorem Analyzes.analyzeAll {s t : ServerState} {texts : OrderedMap Text} {read : List (Text × Text)}
    {m : Machine} (analyzes : s.Analyzes texts) (analyzers : t.analyzers = s.analyzers)
    (holds : t.Holds texts) (all : read.map (·.1) = s.analyzers.keys)
    (taken : ∀ document ∈ read, t.documentText m document.1 = .ok document.2) :
    (t.analyzeAll read).Analyzes texts := by
  intro uri
  rw [(t.analyzeAll_frame read).1]
  cases known : texts.find? uri with
  | none =>
    have unknown : uri ∉ read.map (·.1) := by
      rw [all, analyzes.mem_keys uri, known]
      simp
    rw [t.find?_analyzeAll_of_not_mem unknown, analyzers, analyzes uri, known]
    rfl
  | some text =>
    have hm : uri ∈ read.map (·.1) := by
      rw [all, analyzes.mem_keys uri, known]
      rfl
    obtain ⟨other, hr, eq⟩ := t.find?_analyzeAll_of_mem hm
    obtain rfl : other = text :=
      Except.ok.inj ((taken _ hr).symm.trans (documentText_of_opened (holds uri text known) m))
    exact eq

theorem Holds.eq_none_of_empty {s : ServerState} {texts : OrderedMap Text} {unit : PositionUnit}
    (holds : s.Holds texts) (fresh : s.workspace = some (.empty unit)) (uri : Text) :
    texts.find? uri = none := by
  refine Option.eq_none_iff_forall_ne_some.mpr fun text known => ?_
  obtain ⟨w, hw, found⟩ := document_eq_opened (holds uri text known)
  obtain rfl : Workspace.empty unit = w := Option.some.inj (fresh.symm.trans hw)
  simp [Workspace.empty, OrderedMap.find?] at found

/-- The text that a change tells is the one that the server reads. -/
theorem Holds.documentText_of_changed {s : ServerState} {texts : OrderedMap Text} {uri text : Text}
    (holds : s.Holds (OrderedMap.insert uri text texts)) (m : Machine) :
    s.documentText m uri = .ok text :=
  documentText_of_opened (holds uri text (by simp [OrderedMap.find?_insert])) m

/-- A change is never told without its text. -/
theorem Holds.not_unread {s : ServerState} {texts : OrderedMap Text} {uri text : Text}
    {document : Document} {m : Machine} {fault : Fault}
    (holds : (s.forgetFindings uri).Holds (OrderedMap.insert uri text texts))
    (found : s.document uri = .ok document) : document.text m ≠ .error fault := by
  intro failed
  obtain ⟨other, found', read⟩ := documentText_eq_ok.mp (holds.documentText_of_changed m)
  obtain rfl : document = other := Except.ok.inj (found.symm.trans found')
  simp [failed] at read

theorem told_of_asked {s : ServerState} {texts texts' : OrderedMap Text} {message : ClientMessage}
    {uri : Text} (named : (∃ position, message = .completion uri position) ∨ message = .outline uri)
    (tells : message.Tells s texts texts') : (texts.find? uri).isSome ∧ texts' = texts := by
  rcases named with ⟨position, rfl⟩ | rfl
  · exact tells
  · exact tells

theorem texts_eq_of_run {s : ServerState} {texts texts' : OrderedMap Text} {m : Machine}
    {env : Environment} {message : ClientMessage} {run : CompileRun}
    (hr : s.run? (.heard m env message) = some run) (tells : message.Tells s texts texts') :
    texts' = texts := by
  rcases run?_cases hr with ⟨start, eq⟩ | ⟨m', env', name, arguments, eq⟩
  · simp at eq
  · cases eq
    exact tells

theorem Holds.of_analyzeAll {s : ServerState} {texts : OrderedMap Text} {read : List (Text × Text)}
    (holds : (s.analyzeAll read).Holds texts) : s.Holds texts := by
  unfold Holds document
  rw [← (s.analyzeAll_frame read).2.1]
  exact holds

section MessageOfEditor

variable {s t : ServerState} {texts texts' : OrderedMap Text} {m : Machine} {env : Environment}
  {message : ClientMessage} {shown : List (Text × List Diagnostic)}
  (step : Step s (.heard m env message) t shown) (running : s.stopped = false)
  (tells : message.Tells s texts texts') (holds : s.Holds texts) (holds' : t.Holds texts')
  (before : s.Analyzes texts)

include step running tells holds holds' before

/-- Each message keeps the analyzers those of the texts. -/
theorem Step.analyzes : t.Analyzes texts' := by
  cases step with
  | still ignores =>
    rw [ignores.texts_eq running tells holds]
    exact before
  | greeted _ _ _ =>
    -- The analyzers keep their old settings, but none is left of a document that is open.
    obtain rfl : texts' = texts := tells
    intro uri
    have unknown := holds'.eq_none_of_empty rfl uri
    simpa [unknown] using before uri
  | left _ =>
    obtain rfl : texts' = texts := tells
    exact before
  | @opened _ _ uri text t _ taken =>
    rw [tells.2]
    exact before.analyze taken.frame.1 taken.frame.2.1 uri text
  | @changed _ _ uri edits t read _ taken ht =>
    obtain ⟨_, text, rfl⟩ := tells
    obtain rfl : read = text := Except.ok.inj (ht.symm.trans (holds'.documentText_of_changed m))
    exact Analyzes.analyze (t := t.forgetFindings uri) before taken.frame.1 taken.frame.2.1 uri read
  | unread _ _ found failed =>
    obtain ⟨_, text, rfl⟩ := tells
    exact absurd failed (holds'.not_unread found)
  | @saved _ _ uri read _ ht =>
    obtain ⟨opened, rfl⟩ := tells
    obtain ⟨text, known⟩ := Option.isSome_iff_exists.mp opened
    obtain rfl : read = text :=
      Except.ok.inj (ht.symm.trans (documentText_of_opened (holds uri text known) m))
    exact (before.analyze rfl rfl uri read).insert_known known
  | @closed _ _ uri t _ taken =>
    rw [tells.2]
    exact before.erase taken.frame.1 taken.frame.2.1 uri
  | asked _ named unknown _ =>
    obtain ⟨opened, rfl⟩ := told_of_asked named tells
    rw [← before.mem_keys, OrderedMap.mem_keys_iff, unknown] at opened
    simp at opened
  | @configured _ _ configuration settings t read _ _ eq taken all =>
    obtain rfl : texts' = texts := tells
    have keys := takeWhile_keys m before holds'.of_analyzeAll
    exact before.analyzeAll (by rw [eq]) holds'.of_analyzeAll (all.trans keys) taken
  | notebook _ =>
    obtain rfl : texts' = texts := tells
    exact before
  | @ran _ run held hr _ =>
    obtain rfl : texts' = texts := texts_eq_of_run hr tells
    intro uri
    rw [(s.keep_frame run.job.uri held).1, (s.keep_frame run.job.uri held).2.1]
    exact before uri

/-- What concerns an open document and is not shown stays as it was. -/
theorem Step.same_of_not_shown {uri : Text} (known : (texts'.find? uri).isSome)
    (unshown : uri ∉ shown.map (·.1)) :
    texts'.find? uri = texts.find? uri ∧ t.settings = s.settings ∧ t.findings uri = s.findings uri := by
  cases step with
  | still ignores =>
    rw [ignores.texts_eq running tells holds]
    exact ⟨rfl, rfl, rfl⟩
  | greeted _ _ _ => simp [holds'.eq_none_of_empty rfl uri] at known
  | left _ =>
    obtain rfl : texts' = texts := tells
    exact ⟨rfl, rfl, rfl⟩
  | @opened _ _ other text t _ taken =>
    have ne : other ≠ uri := by simpa [eq_comm] using unshown
    obtain ⟨settings, _, kept, _⟩ := taken.frame
    rw [tells.2, OrderedMap.find?_insert, if_neg ne]
    exact ⟨rfl, settings, by simp [findings, ServerState.analyze, kept]⟩
  | @changed _ _ other edits t read _ taken ht =>
    have ne : other ≠ uri := by simpa [eq_comm] using unshown
    obtain ⟨settings, _, kept, _⟩ := taken.frame
    obtain ⟨_, text, rfl⟩ := tells
    rw [OrderedMap.find?_insert, if_neg ne]
    refine ⟨rfl, settings, ?_⟩
    simp [findings, ServerState.analyze, forgetFindings, kept, OrderedMap.find?_erase, ne]
  | unread _ _ found failed =>
    obtain ⟨_, text, rfl⟩ := tells
    exact absurd failed (holds'.not_unread found)
  | saved _ _ =>
    obtain ⟨_, rfl⟩ := tells
    exact ⟨rfl, rfl, rfl⟩
  | @closed _ _ other t _ taken =>
    have ne : other ≠ uri := by simpa [eq_comm] using unshown
    obtain ⟨settings, _, kept, _⟩ := taken.frame
    rw [tells.2, OrderedMap.find?_erase, if_neg ne]
    exact ⟨rfl, settings, by simp [findings, forgetFindings, kept, OrderedMap.find?_erase, ne]⟩
  | asked _ named _ _ =>
    obtain ⟨_, rfl⟩ := told_of_asked named tells
    exact ⟨rfl, rfl, rfl⟩
  | @configured _ _ configuration settings t read _ _ eq taken all =>
    obtain rfl : texts' = texts := tells
    -- All open documents are shown after a change of the configuration.
    rw [takeWhile_keys m before holds'.of_analyzeAll] at all
    rw [List.map_map] at unshown
    exact absurd (all ▸ (before.mem_keys uri).mpr known) unshown
  | notebook _ =>
    obtain rfl : texts' = texts := tells
    exact ⟨rfl, rfl, rfl⟩
  | @ran _ run held hr _ =>
    obtain rfl : texts' = texts := texts_eq_of_run hr tells
    have ne : run.job.uri ≠ uri := by simpa [eq_comm] using unshown
    refine ⟨rfl, (s.keep_frame _ _).1, ?_⟩
    rw [findings_keep, if_neg ne]

end MessageOfEditor

end ServerState

/-- What an editor sees of its documents is in step with their texts: the analyzers, the findings of the last
runs, and what is shown for a document that is open. -/
structure InStep (past : List Moment) (texts : OrderedMap Text) (s : ServerState) : Prop where
  analyzes : s.Analyzes texts
  kept : ∀ uri, s.findings uri = lastFindings uri past
  shown : ∀ uri, (texts.find? uri).isSome → lastShown? uri past = some (s.shownFor uri)

theorem ServerState.shownFor_congr {s t : ServerState} {texts texts' : OrderedMap Text} {uri : Text}
    (analyzes : s.Analyzes texts) (analyzes' : t.Analyzes texts')
    (text : texts'.find? uri = texts.find? uri) (settings : t.settings = s.settings)
    (findings : t.findings uri = s.findings uri) :
    t.shownFor uri = s.shownFor uri := by
  have analyzers : t.analyzers.find? uri = s.analyzers.find? uri := by
    rw [analyzes' uri, analyzes uri, text, settings]
  rw [shownFor, shownFor, diagnosticsFor, diagnosticsFor, analyzers, settings, findings]

theorem EditorSession.inStep {past : List Moment} {texts : OrderedMap Text} {s : ServerState}
    (editing : EditorSession past texts s) : InStep past texts s := by
  induction editing with
  | start env => exact ⟨fun _ => rfl, fun _ => rfl, fun _ h => by simp [OrderedMap.find?] at h⟩
  | @next past texts texts' s m env message previous running tells holds' ih =>
    have step := s.step_react (.heard m env message)
    have analyzes' := step.analyzes running tells previous.holds holds' ih.analyzes
    refine ⟨analyzes', ?_, ?_⟩
    · intro uri
      rw [ServerState.findings_react (ServerState.heeded_of_tells running tells previous.holds), ih.kept uri]
      rfl
    · intro uri opened
      rw [s.lastShown?_react]
      split
      next =>
        obtain ⟨text, known⟩ := Option.isSome_iff_exists.mp opened
        have analyzed := analyzes' uri
        rw [known] at analyzed
        rw [ServerState.shownAfterRun_of_analyzer analyzed]
      next unshown =>
        -- What is not shown anew was shown before, and nothing that it was made of has changed.
        obtain ⟨text, settings, findings⟩ :=
          step.same_of_not_shown running tells previous.holds holds' ih.analyzes opened unshown
        rw [ServerState.shownFor_congr ih.analyzes analyzes' text settings findings]
        exact ih.shown uri (text ▸ opened)

theorem take_take_append {α : Type} (limit : Nat) (xs ys : List α) :
    (xs.take limit ++ ys).take limit = (xs ++ ys).take limit := by
  rw [List.take_append, List.take_append, List.take_take, Nat.min_self, List.length_take]
  congr 2
  omega

/-- After every message, the analyzer of an open document is that of its text under the current settings, and
the diagnostics shown last are the first of its blocks and of what the last run found, as many as the limit
allows. -/
theorem view_of_open_document {past : List Moment} {texts : OrderedMap Text} {s : ServerState}
    (editing : EditorSession past texts s) {uri text : Text} (opened : texts.find? uri = some text) :
    s.analyzers.find? uri = some (analysis s.settings text) ∧
      ∃ limit : Nat, s.settings.maxProblems = limit ∧
        lastShown? uri past =
          some ((blockDiagnostics (editorLines text) ++ lastFindings uri past).take limit) := by
  obtain ⟨analyzes, kept, shown⟩ := editing.inStep
  have analyzed : s.analyzers.find? uri = some (analysis s.settings text) := by
    rw [analyzes uri, opened]
    rfl
  refine ⟨analyzed, s.settings.maxProblems.toNat, ?_, ?_⟩
  · have := editing.session.limit_nonneg
    omega
  · rw [shown uri (by simp [opened]), ServerState.shownFor, ServerState.diagnosticsFor, analyzed, kept uri]
    exact congrArg some (take_take_append _ _ _)

theorem ServerState.holds_single {s : ServerState} {uri text : Text}
    (h : s.document uri = .ok (.opened text)) :
    s.Holds [(uri, text)] := by
  intro other read known
  simp only [OrderedMap.find?] at known
  split at known
  next eq =>
    cases Option.some.inj known
    exact eq ▸ h
  next => simp at known

/-- An open block and a run that fails are both shown. -/
theorem view_after_failed_run :
    ∃ past texts s, EditorSession past texts s ∧ texts.find? "file:/w/p" = some "If x" ∧
      lastShown? "file:/w/p" past =
        some (blockDiagnostics (editorLines "If x") ++ [⟨.onLine 0 0 10, "a", .compiler⟩]) := by
  have greeted := EditorSession.next (.withCompiler "Line 1: a") [] (.greeting (.toCompiler 2)) (.start [])
    rfl rfl fun uri text h => by simp [OrderedMap.find?] at h
  have opened := greeted.next (.withCompiler "Line 1: a") [] (.opened "file:/w/p" "If x") rfl
    ⟨⟨_, _, _, rfl, rfl, rfl⟩, rfl⟩ (ServerState.holds_single rfl)
  have compiled := opened.next (.withCompiler "Line 1: a") []
    (.command "smallbasic.compile" [.str "file:/w/p"]) rfl rfl (ServerState.holds_single (by rfl))
  have known : (OrderedMap.insert "file:/w/p" "If x" [] : OrderedMap Text).find? "file:/w/p" = some "If x" :=
    rfl
  obtain ⟨_, limit, given, shown⟩ := view_of_open_document compiled known
  obtain rfl : limit = 2 := Int.ofNat.inj (given.symm.trans (by rfl))
  exact ⟨_, _, _, compiled, known, shown.trans (by rfl)⟩

end BasicWorkbench
