import Mathlib.Data.List.TakeWhile
import BasicWorkbench.Proofs.AnalyzerCaches
import BasicWorkbench.Proofs.DocumentFrames

namespace BasicWorkbench

/-- The URIs of the documents that an editor has open after an event. -/
def ServerEvent.openAfter (opened : List Text) : ServerEvent → List Text
  | .heard _ _ (.opened uri _) => uri :: opened
  | .heard _ _ (.closed uri) => opened.filter (· ≠ uri)
  | _ => opened

/-- What can happen where an editor has documents open: it introduces itself before it opens any, changes,
saves and closes only open ones and asks about no others, and has no notebooks. -/
def ServerEvent.IsProper (opened : List Text) : ServerEvent → Prop
  | .heard _ _ message =>
    match message with
    | .greeting _ => opened = []
    | .changed uri _ | .saved uri | .closed uri | .completion uri _ | .outline uri => uri ∈ opened
    | .notebook _ => False
    | _ => True
  | _ => True

instance (opened : List Text) : (event : ServerEvent) → Decidable (event.IsProper opened)
  | .heard _ _ (.greeting _) => inferInstanceAs (Decidable (opened = []))
  | .heard _ _ (.changed uri _) | .heard _ _ (.saved uri) | .heard _ _ (.closed uri)
  | .heard _ _ (.completion uri _) | .heard _ _ (.outline uri) => inferInstanceAs (Decidable (uri ∈ opened))
  | .heard _ _ (.notebook _) => .isFalse id
  | .heard _ _ .greetingDone | .heard _ _ .shutdown | .heard _ _ (.opened _ _) | .heard _ _ (.configured _)
  | .heard _ _ (.resolveItem _) | .heard _ _ (.command _ _) | .heard _ _ (.folders _)
  | .heard _ _ (.progressCancelled _) | .heard _ _ .unhandled | .began _ | .ended _ _ _ => .isTrue trivial

/-- Documents with different URIs have different ones after decoding. -/
def Apart (uris : List Text) : Prop :=
  ∀ a ∈ uris, ∀ b ∈ uris, percentDecode a = percentDecode b → a = b

instance (uris : List Text) : Decidable (Apart uris) :=
  inferInstanceAs (Decidable (∀ a ∈ uris, ∀ b ∈ uris, percentDecode a = percentDecode b → a = b))

theorem Apart.subset {uris uris' : List Text} (apart : Apart uris) (within : ∀ uri ∈ uris', uri ∈ uris) :
    Apart uris' :=
  fun a ha b hb => apart a (within a ha) b (within b hb)

theorem ServerEvent.mem_of_mem_openAfter {opened : List Text} {event : ServerEvent} {uri : Text}
    (h : uri ∈ event.openAfter opened) :
    uri ∈ opened ∨ ∃ m env text, event = .heard m env (.opened uri text) := by
  cases event with
  | began job => exact .inl h
  | ended start job result => exact .inl h
  | heard m env message =>
    cases message with
    | opened other text =>
      rcases List.mem_cons.mp h with rfl | h
      · exact .inr ⟨m, env, text, rfl⟩
      · exact .inl h
    | closed other => exact .inl (List.mem_filter.mp h).1
    | _ => exact .inl h

namespace ServerState

/-- The server keeps no more than the editor has open: every analyzer is that of an open document with its
text, every text that of an open document, and no open document is read from a file. -/
structure Tidy (opened : List Text) (s : ServerState) : Prop where
  once : s.analyzers.keys.Nodup
  analyzed : ∀ uri ∈ s.analyzers.keys, uri ∈ opened ∧ (s.text? uri).isSome
  documents : ∀ w, s.workspace = some w → ∀ key, (w.documents.find? key).isSome →
    ∃ uri ∈ opened, percentDecode uri = key
  present : ∀ uri ∈ opened, (s.text? uri).isSome ∨ s.workspace = none ∨ ∃ f, pathOfUri uri = .error f

theorem Tidy.fresh (env : Environment) : (ServerState.fresh env).Tidy [] where
  once := List.nodup_nil
  analyzed := by simp [ServerState.fresh, OrderedMap.keys]
  documents := by simp [ServerState.fresh]
  present := by simp

theorem Tidy.congr {opened : List Text} {s t : ServerState} (tidy : s.Tidy opened)
    (analyzers : t.analyzers = s.analyzers) (workspace : t.workspace = s.workspace) : t.Tidy opened := by
  obtain ⟨_, _, _, _, _⟩ := s
  obtain ⟨_, _, _, _, _⟩ := t
  dsimp only at analyzers workspace
  subst analyzers workspace
  exact ⟨tidy.once, tidy.analyzed, tidy.documents, tidy.present⟩

theorem documentText_of_text? {s : ServerState} {uri text : Text} (h : s.text? uri = some text)
    (m : Machine) : s.documentText m uri = .ok text := by
  obtain ⟨w, hw, found⟩ := Option.bind_eq_some_iff.mp h
  simp only [documentText, document, hw, Workspace.document, found]
  rfl

theorem Tidy.text?_of_document {opened : List Text} {s : ServerState} (tidy : s.Tidy opened) {uri : Text}
    {document : Document} (hu : uri ∈ opened) (found : s.document uri = .ok document) :
    ∃ text, s.text? uri = some text ∧ document = .opened text := by
  unfold ServerState.document at found
  cases hw : s.workspace with
  | none => simp [hw] at found
  | some w =>
    simp only [hw, Workspace.document] at found
    cases ht : w.documents.find? (percentDecode uri) with
    | some text =>
      simp only [ht] at found
      exact ⟨text, by simp [text?, hw, ht], (Except.ok.inj found).symm⟩
    | none =>
      simp only [ht] at found
      rcases tidy.present uri hu with known | absent | ⟨f, unnamed⟩
      · simp [text?, hw, ht] at known
      · simp [hw] at absent
      · simp [unnamed, Functor.map, Except.map] at found

/-- An open document has a text in the workspace if it has one at all. -/
theorem Tidy.text?_of_read {opened : List Text} {s : ServerState} (tidy : s.Tidy opened) {m : Machine}
    {uri text : Text} (hu : uri ∈ opened) (read : s.documentText m uri = .ok text) :
    s.text? uri = some text := by
  obtain ⟨document, found, ht⟩ := documentText_eq_ok.mp read
  obtain ⟨text', known, rfl⟩ := tidy.text?_of_document hu found
  rw [known, Except.ok.inj ht]

theorem Tidy.analyze {opened : List Text} {s : ServerState} (tidy : s.Tidy opened) {uri : Text}
    (hu : uri ∈ opened) (known : (s.text? uri).isSome) (text : Text) : (s.analyze uri text).Tidy opened where
  once := OrderedMap.nodup_keys_insert tidy.once _ _
  analyzed := by
    intro other ho
    rcases (mem_keys_analyze s uri text other).mp ho with rfl | ho
    · exact ⟨hu, known⟩
    · exact tidy.analyzed other ho
  documents := tidy.documents
  present := tidy.present

theorem Tidy.analyzeAll {opened : List Text} {s : ServerState} {read : List (Text × Text)}
    (tidy : s.Tidy opened) (within : ∀ uri ∈ read.map (·.1), uri ∈ s.analyzers.keys) :
    (s.analyzeAll read).Tidy opened := by
  induction read generalizing s with
  | nil => exact tidy
  | cons document read ih =>
    have here := tidy.analyzed document.1 (within _ (by simp))
    refine ih (tidy.analyze here.1 here.2 document.2) fun uri hu => ?_
    exact (mem_keys_analyze ..).mpr (.inr (within uri (List.mem_cons_of_mem _ hu)))

theorem Takes.text?_of_opened {s t : ServerState} {uri text : Text} (taken : s.Takes (.opened uri text) t) :
    t.text? uri = some text := by
  obtain ⟨w, w', hw, heard, rfl⟩ := taken
  obtain ⟨_, rfl⟩ := Workspace.hear_opened_eq_ok.mp heard
  simp [text?, OrderedMap.find?_insert]

theorem Takes.text?_of_changed {s t : ServerState} {uri : Text} {edits : List TextEdit}
    (taken : s.Takes (.changed uri edits) t) (known : (s.text? uri).isSome) : (t.text? uri).isSome := by
  obtain ⟨w, w', hw, heard, rfl⟩ := taken
  obtain ⟨text, ht⟩ := Option.isSome_iff_exists.mp known
  have found : w.documents.find? (percentDecode uri) = some text := by simpa [text?, hw] using ht
  simp only [Workspace.hear, found] at heard
  cases Except.ok.inj heard
  simp [text?, OrderedMap.find?_insert]

/-- A text stays open but for its closing. -/
theorem Takes.text?_grows {s t : ServerState} {news : DocumentNews} (taken : s.Takes news t)
    (stays : ∀ uri, news ≠ .closed uri) {uri : Text} (known : (s.text? uri).isSome) :
    (t.text? uri).isSome := by
  by_cases same : percentDecode news.uri = percentDecode uri
  · have named : ∀ v : ServerState, v.text? news.uri = v.text? uri := fun v => by rw [text?, text?, same]
    rw [← named] at known ⊢
    cases news with
    | closed other => exact absurd rfl (stays other)
    | opened other text => exact Option.isSome_of_mem taken.text?_of_opened
    | changed other edits => exact taken.text?_of_changed known
  · rw [taken.text?_of_other same]
    exact known

/-- The server stays tidy over news that add to what is open. -/
theorem Tidy.takes {opened opened' : List Text} {s t : ServerState} {news : DocumentNews}
    (tidy : s.Tidy opened) (taken : s.Takes news t) (stays : ∀ uri, news ≠ .closed uri) (kept : ∀ uri ∈ opened, uri ∈ opened')
    (named : news.uri ∈ opened') (new : ∀ uri ∈ opened', uri ∈ opened ∨ (t.text? uri).isSome) :
    t.Tidy opened' := by
  have grows : ∀ uri, (s.text? uri).isSome → (t.text? uri).isSome := fun _ => taken.text?_grows stays
  obtain ⟨w, w', hw, heard, rfl⟩ := taken
  constructor
  case once => exact tidy.once
  case analyzed =>
    intro uri hu
    obtain ⟨ho, known⟩ := tidy.analyzed uri hu
    exact ⟨kept uri ho, grows uri known⟩
  case documents =>
    intro v hv key found
    obtain rfl : w' = v := Option.some.inj hv
    by_cases same : percentDecode news.uri = key
    · exact ⟨news.uri, named, same⟩
    · rw [(Workspace.hear_frame heard).2 key same] at found
      obtain ⟨uri, hu, eq⟩ := tidy.documents w hw key found
      exact ⟨uri, kept uri hu, eq⟩
  case present =>
    intro uri hu
    rcases new uri hu with ho | known
    · rcases tidy.present uri ho with known | absent | unnamed
      · exact .inl (grows uri known)
      · simp [hw] at absent
      · exact .inr (.inr unnamed)
    · exact .inl known

/-- The server stays tidy when a document is closed, as no other goes by its decoded URI. -/
theorem Tidy.closes {opened : List Text} {s t : ServerState} {uri : Text} (tidy : s.Tidy opened)
    (apart : Apart opened) (hu : uri ∈ opened) (taken : s.Takes (.closed uri) t) :
    ({ t with analyzers := t.analyzers.erase uri } : ServerState).Tidy (opened.filter (· ≠ uri)) := by
  have others : ∀ other ∈ opened, other ≠ uri → t.text? other = s.text? other := by
    intro other ho ne
    exact taken.text?_of_other fun same => ne (apart other ho uri hu same.symm)
  obtain ⟨w, w', hw, heard, rfl⟩ := taken
  constructor
  case once =>
    rw [OrderedMap.keys_erase]
    exact tidy.once.filter _
  case analyzed =>
    intro other ho
    rw [OrderedMap.keys_erase, List.mem_filter] at ho
    have ne : other ≠ uri := by simpa using ho.2
    obtain ⟨opened', known⟩ := tidy.analyzed other ho.1
    exact ⟨List.mem_filter.mpr ⟨opened', by simpa using ne⟩, (others other opened' ne).symm ▸ known⟩
  case documents =>
    intro v hv key found
    obtain rfl : w' = v := Option.some.inj hv
    cases Except.ok.inj heard
    have kept : percentDecode uri ≠ key ∧ (w.documents.find? key).isSome := by
      rw [OrderedMap.find?_erase] at found
      split at found
      next => simp at found
      next ne => exact ⟨ne, found⟩
    obtain ⟨other, ho, rfl⟩ := tidy.documents w hw key kept.2
    have ne : other ≠ uri := fun same => kept.1 (congrArg percentDecode same.symm)
    exact ⟨other, List.mem_filter.mpr ⟨ho, by simpa using ne⟩, rfl⟩
  case present =>
    intro other ho
    obtain ⟨ho, ne⟩ := List.mem_filter.mp ho
    have ne : other ≠ uri := by simpa using ne
    rcases tidy.present other ho with known | absent | unnamed
    · exact .inl ((others other ho ne).symm ▸ known)
    · simp [hw] at absent
    · exact .inr (.inr unnamed)

theorem Tidy.refused {opened : List Text} {s : ServerState} {m : Machine} {env : Environment}
    {message : ClientMessage} (tidy : s.Tidy opened) (running : s.stopped = false)
    (ignores : s.Ignores (.heard m env message)) :
    s.Tidy (ServerEvent.openAfter opened (.heard m env message)) := by
  cases message with
  | opened uri text =>
    rcases ignores with stopped | refused
    · simp [running] at stopped
    have unnamed : s.workspace = none ∨ ∃ f, pathOfUri uri = .error f := by
      cases hw : s.workspace with
      | none => exact .inl rfl
      | some w =>
        cases named : pathOfUri uri with
        | error f => exact .inr ⟨f, rfl⟩
        | ok p => exact absurd ⟨_, w, _, hw, Workspace.hear_opened_eq_ok.mpr ⟨⟨p, named⟩, rfl⟩, rfl⟩ refused
    refine ⟨tidy.once, fun other ho => ?_, fun w hw key found => ?_, fun other ho => ?_⟩
    · obtain ⟨ho, known⟩ := tidy.analyzed other ho
      exact ⟨List.mem_cons_of_mem uri ho, known⟩
    · obtain ⟨other, ho, same⟩ := tidy.documents w hw key found
      exact ⟨other, List.mem_cons_of_mem uri ho, same⟩
    · rcases List.mem_cons.mp ho with rfl | ho
      · exact .inr unnamed
      · exact tidy.present other ho
  | closed uri =>
    rcases ignores with stopped | refused
    · simp [running] at stopped
    have absent : s.workspace = none := by
      cases hw : s.workspace with
      | none => rfl
      | some w => exact absurd ⟨_, w, _, hw, rfl, rfl⟩ refused
    refine ⟨tidy.once, fun other ho => ?_, fun w hw => ?_, fun other ho => .inr (.inl absent)⟩
    · simpa [text?, absent] using (tidy.analyzed other ho).2
    · simp [absent] at hw
  | _ => exact tidy

/-- Whatever can happen leaves a server tidy that was tidy before. -/
theorem Step.tidy {opened : List Text} {s t : ServerState} {event : ServerEvent}
    {shown : List (Text × List Diagnostic)} (step : Step s event t shown) (proper : event.IsProper opened)
    (apart : Apart opened) (before : s.stopped = false → s.Tidy opened) (running : t.stopped = false) :
    t.Tidy (event.openAfter opened) := by
  cases step with
  | still ignores =>
    cases event with
    | heard m env message => exact (before running).refused running ignores
    | began job => exact before running
    | ended start job result => exact before running
  | greeted started _ _ =>
    have none : opened = [] := proper
    have unanalyzed : s.analyzers.keys = [] := by
      rw [List.eq_nil_iff_forall_not_mem]
      intro uri hu
      have open' := ((before started).analyzed uri hu).1
      simp [none] at open'
    refine ⟨(before started).once, ?_, ?_, ?_⟩
    · simp [unanalyzed]
    · intro w hw key found
      obtain rfl : Workspace.empty _ = w := Option.some.inj hw
      simp [Workspace.empty, OrderedMap.find?] at found
    · simp [ServerEvent.openAfter, none]
  | left _ => simp at running
  | @opened m env uri text t started taken =>
    have known : (t.text? uri).isSome := Option.isSome_of_mem taken.text?_of_opened
    have tidy : t.Tidy (uri :: opened) :=
      (before started).takes taken (by simp) (fun other => List.mem_cons_of_mem uri) List.mem_cons_self
        fun other ho => by
          rcases List.mem_cons.mp ho with rfl | ho
          · exact .inr known
          · exact .inl ho
    exact tidy.analyze List.mem_cons_self known text
  | @changed m env uri edits t text started taken read =>
    have tidy : t.Tidy opened :=
      (before started).takes taken (by simp) (fun other ho => ho) proper fun other ho => .inl ho
    have known : (t.text? uri).isSome := Option.isSome_of_mem (tidy.text?_of_read proper read)
    have forgotten : (t.forgetFindings uri).Tidy opened := tidy.congr rfl rfl
    exact forgotten.analyze proper known text
  | @unread m env uri edits t document fault started taken _ _ =>
    have tidy : t.Tidy opened :=
      (before started).takes taken (by simp) (fun other ho => ho) proper fun other ho => .inl ho
    exact tidy.congr rfl rfl
  | @saved m env uri text started read =>
    have known := (before started).text?_of_read proper read
    exact (before started).analyze proper (by simp [known]) text
  | @closed m env uri t started taken =>
    exact ((before started).closes apart proper taken).congr rfl rfl
  | @asked m env message uri text started named _ read =>
    have hu : uri ∈ opened := by
      rcases named with ⟨position, rfl⟩ | rfl
      · exact proper
      · exact proper
    have same : ServerEvent.openAfter opened (.heard m env message) = opened := by
      rcases named with ⟨position, rfl⟩ | rfl
      · rfl
      · rfl
    have known := (before started).text?_of_read hu read
    rw [same]
    exact (before started).analyze hu (by simp [known]) text
  | @configured m env configuration settings t read started _ eq _ all =>
    subst eq
    have tidy : ServerState.Tidy opened { s with settings := settings.resolve env } :=
      (before started).congr rfl rfl
    refine tidy.analyzeAll fun uri hu => ?_
    rw [all] at hu
    exact (List.takeWhile_sublist _).subset hu
  | notebook _ => exact proper.elim
  | @ran _ run held hr _ =>
    obtain ⟨_, analyzers, workspace, stopped⟩ := s.keep_frame run.job.uri held
    have same : event.openAfter opened = opened := by
      rcases run?_cases hr with ⟨start, rfl⟩ | ⟨m, env, name, arguments, rfl⟩
      · rfl
      · rfl
    rw [same]
    exact (before (stopped.symm.trans running)).congr analyzers workspace

/-- Texts are kept under decoded URIs; an event about another document leaves that of an open one alone. -/
theorem Step.text?_of_other {opened : List Text} {s t : ServerState} {event : ServerEvent}
    {shown : List (Text × List Diagnostic)} (step : Step s event t shown) {other uri : Text}
    (about : event.addressee? = some other) (ne : other ≠ uri) (proper : event.IsProper opened)
    (apart : Apart opened) (apart' : Apart (event.openAfter opened)) (hu : uri ∈ opened) :
    t.text? uri = s.text? uri := by
  cases step with
  | still _ | saved _ _ | asked _ _ _ _ => rfl
  | greeted _ _ _ | left _ | configured _ _ _ _ _ | notebook _ =>
    simp [ServerEvent.addressee?, ClientMessage.addressee?, ClientMessage.compileJob?] at about
  | opened _ taken =>
    obtain rfl := Option.some.inj about
    exact taken.text?_of_other fun same =>
      ne (apart' _ List.mem_cons_self uri (List.mem_cons_of_mem _ hu) same)
  | changed _ taken _ | unread _ taken _ _ | closed _ taken =>
    obtain rfl := Option.some.inj about
    exact taken.text?_of_other fun same => ne (apart _ proper uri hu same)
  | @ran _ run held _ _ => simp [text?, (s.keep_frame run.job.uri held).2.2.1]

theorem Step.running_before {s t : ServerState} {event : ServerEvent} {shown : List (Text × List Diagnostic)}
    (step : Step s event t shown) (running : t.stopped = false) : s.stopped = false := by
  cases step with
  | still _ => exact running
  | left _ => simp at running
  | ran _ _ => exact (s.keep_frame _ _).2.2.2.symm.trans running
  | greeted started _ _ | opened started _ | changed started _ _ | unread started _ _ _ | saved started _
  | closed started _ | asked started _ _ _ | configured started _ _ _ _ | notebook started => exact started

/-- The text that is analyzed again when the configuration changes. -/
def analyzedText? (s : ServerState) (uri : Text) : Option Text :=
  if (s.analyzers.find? uri).isSome then s.text? uri else none

theorem filter_eq_singleton {read : List (Text × Text)} (once : (read.map (·.1)).Nodup) {uri text : Text}
    (hm : (uri, text) ∈ read) : read.filter (·.1 = uri) = [(uri, text)] := by
  induction read with
  | nil => simp at hm
  | cons document read ih =>
    obtain ⟨absent, once⟩ := List.nodup_cons.mp once
    rcases List.mem_cons.mp hm with rfl | hm
    · rw [List.filter_cons_of_pos (by simp), filter_eq_nil_of_not_mem absent]
    · have ne : document.1 ≠ uri := by
        rintro rfl
        exact absent (List.mem_map.mpr ⟨_, hm, rfl⟩)
      rw [List.filter_cons_of_neg (by simpa using ne), ih once hm]

/-- All documents that have an analyzer can be read again. -/
theorem Tidy.takeWhile_keys {opened : List Text} {s t : ServerState} (tidy : s.Tidy opened)
    (workspace : t.workspace = s.workspace) (m : Machine) :
    s.analyzers.keys.takeWhile (fun uri => (t.documentText m uri).isOk) = s.analyzers.keys := by
  refine List.takeWhile_eq_self_iff.mpr fun uri hu => ?_
  obtain ⟨text, known⟩ := Option.isSome_iff_exists.mp (tidy.analyzed uri hu).2
  have same : t.text? uri = some text := by rw [text?, workspace]; exact known
  rw [documentText_of_text? same m]
  rfl

/-- A change of the configuration analyzes and shows every document that has an analyzer, and none twice. -/
theorem Tidy.configured {opened : List Text} {s : ServerState} (tidy : s.Tidy opened)
    (running : s.stopped = false) (m : Machine) (env : Environment) {configuration : Json}
    {settings : Settings} (given : Settings.ofConfiguration configuration = .ok settings) (uri : Text) :
    let after := s.react (.heard m env (.configured configuration))
    after.1.settings = settings.resolve env ∧ after.1.workspace = s.workspace ∧
      after.1.compilerDiagnostics = s.compilerDiagnostics ∧ after.1.stopped = s.stopped ∧
      after.1.analyzers.find? uri = (s.analyzedText? uri).map (analysis (settings.resolve env)) ∧
      shownOf uri after.2 = (s.analyzedText? uri).toList.map fun text =>
        limitDiagnostics (settings.resolve env).maxProblems
          ((analysis (settings.resolve env) text).diagnostics ++ s.findings uri) := by
  intro after
  obtain ⟨read, texts, all, state, shown⟩ := configured_cases (m := m) env running given
  generalize eq : ({ s with settings := settings.resolve env } : ServerState) = t at texts all state shown
  have workspace : t.workspace = s.workspace := by rw [← eq]
  have analyzers : t.analyzers = s.analyzers := by rw [← eq]
  have configured : t.settings = settings.resolve env := by rw [← eq]
  have held : t.compilerDiagnostics = s.compilerDiagnostics := by rw [← eq]
  rw [tidy.takeWhile_keys workspace m] at all
  have once : (read.map (·.1)).Nodup := all ▸ tidy.once
  obtain ⟨settings', workspace', held', stopped'⟩ := t.analyzeAll_frame read
  rw [state, shownOf, shown, List.filter_map]
  refine ⟨settings'.trans configured, workspace'.trans workspace, held'.trans held, ?_, ?_⟩
  · rw [stopped', ← eq]
  cases known : s.analyzers.find? uri with
  | none =>
    have absent : uri ∉ read.map (·.1) := by
      rw [all, OrderedMap.mem_keys_iff, known]
      simp
    have nothing : s.analyzedText? uri = none := by simp [analyzedText?, known]
    have unread : read.filter (·.1 = uri) = [] := filter_eq_nil_of_not_mem absent
    rw [nothing, t.find?_analyzeAll_of_not_mem absent, analyzers, known]
    exact ⟨rfl, congrArg _ (congrArg _ unread)⟩
  | some analyzer =>
    have present : uri ∈ read.map (·.1) := by
      rw [all, OrderedMap.mem_keys_iff, known]
      rfl
    obtain ⟨text, hr, analyzer'⟩ := t.find?_analyzeAll_of_mem present
    have here : s.text? uri = some text := by
      obtain ⟨text', ht⟩ := Option.isSome_iff_exists.mp (tidy.analyzed uri (all ▸ present)).2
      have same : t.text? uri = some text' := by rw [text?, workspace]; exact ht
      obtain rfl : text = text' := Except.ok.inj ((texts _ hr).symm.trans (documentText_of_text? same m))
      exact ht
    have analyzed : s.analyzedText? uri = some text := by simp [analyzedText?, known, here]
    have only : read.filter (·.1 = uri) = [(uri, text)] := filter_eq_singleton once hr
    rw [analyzed, analyzer', configured]
    refine ⟨rfl, (congrArg _ (congrArg _ only)).trans ?_⟩
    simp [shownFor_analyze, configured, findings, held]

end ServerState

end BasicWorkbench
