import BasicWorkbench.Proofs.OpenDocuments

namespace BasicWorkbench

/-- Two turns send and answer the same and leave states that are the same to a document, its text too if
`same` holds. -/
structure Turn.Agree (uri : Text) (same : Prop) (a b : Turn) : Prop where
  sent : b.sent = a.sent
  outcome : b.outcome = a.outcome
  state : ServerState.Agree uri a.state b.state
  text : same → b.state.text? uri = a.state.text? uri

theorem Turn.Agree.messages {uri : Text} {same : Prop} {a b : Turn} (agree : Turn.Agree uri same a b)
    (isRequest : Bool) : b.messages isRequest = a.messages isRequest := by
  rw [Turn.messages, Turn.messages, agree.sent, agree.outcome]

/-- Two workspaces with one text for a document take the same news of it. -/
theorem Workspace.hear_congr {w v : Workspace} {news : DocumentNews} (unit : v.unit = w.unit)
    (found : v.documents.find? (percentDecode news.uri) = w.documents.find? (percentDecode news.uri)) :
    (∃ f, w.hear news = .error f ∧ v.hear news = .error f) ∨
      ∃ w' v', w.hear news = .ok w' ∧ v.hear news = .ok v' ∧ v'.unit = w'.unit ∧
        v'.documents.find? (percentDecode news.uri) = w'.documents.find? (percentDecode news.uri) := by
  cases news with
  | opened uri text =>
    cases named : pathOfUri uri with
    | error f =>
      have refused (v : Workspace) : v.hear (.opened uri text) = .error f := by
        simp [hear, named, bind, Except.bind]
      exact .inl ⟨f, refused w, refused v⟩
    | ok p =>
      have taken (v : Workspace) : v.hear (.opened uri text) =
          .ok { v with documents := OrderedMap.insert (percentDecode uri) text v.documents } :=
        hear_opened_eq_ok.mpr ⟨⟨p, named⟩, rfl⟩
      refine .inr ⟨_, _, taken w, taken v, unit, ?_⟩
      simp [DocumentNews.uri, OrderedMap.find?_insert]
  | closed uri => exact .inr ⟨_, _, rfl, rfl, unit, by simp [DocumentNews.uri, OrderedMap.find?_erase]⟩
  | changed uri edits =>
    simp only [DocumentNews.uri] at found ⊢
    simp only [hear, found, unit]
    cases w.documents.find? (percentDecode uri) with
    | some text => exact .inr ⟨_, _, rfl, rfl, rfl, by simp [OrderedMap.find?_insert]⟩
    | none =>
      cases edits.isEmpty with
      | true => exact .inr ⟨_, _, rfl, rfl, unit, found⟩
      | false => exact .inl ⟨_, rfl, rfl⟩

namespace ServerState

section SameDocument

variable {uri : Text} {s t : ServerState} (agree : Agree uri s t)

include agree

theorem Agree.analyze (text : Text) : Agree uri (s.analyze uri text) (t.analyze uri text) where
  settings := agree.settings
  stopped := agree.stopped
  unit := agree.unit
  analyzer := by simp [ServerState.analyze, OrderedMap.find?_insert, agree.settings]
  kept := agree.kept

theorem Agree.forgetFindings : Agree uri (s.forgetFindings uri) (t.forgetFindings uri) where
  settings := agree.settings
  stopped := agree.stopped
  unit := agree.unit
  analyzer := agree.analyzer
  kept := by simp [ServerState.forgetFindings, OrderedMap.find?_erase]

theorem Agree.keep (held : Option (List Diagnostic)) : Agree uri (s.keep uri held) (t.keep uri held) := by
  cases held with
  | none => exact agree.forgetFindings
  | some diagnostics =>
    have kept : (t.keep uri (some diagnostics)).compilerDiagnostics.find? uri =
        (s.keep uri (some diagnostics)).compilerDiagnostics.find? uri := by
      rw [find?_keep, find?_keep, if_pos rfl, if_pos rfl]
    exact ⟨agree.settings, agree.stopped, agree.unit, agree.analyzer, kept⟩

theorem Agree.shownFor : t.shownFor uri = s.shownFor uri := by
  unfold ServerState.shownFor diagnosticsFor findings
  rw [agree.settings, agree.analyzer, agree.kept]

theorem Agree.publication : t.publication uri = s.publication uri :=
  congrArg (ServerMessage.publish uri) agree.shownFor

theorem Agree.compilePublication : t.compilePublication uri = s.compilePublication uri := by
  unfold ServerState.compilePublication findings
  rw [agree.analyzer, agree.publication, agree.kept]

theorem Agree.workspace_none_iff : t.workspace = none ↔ s.workspace = none := by
  have same := agree.unit
  cases hs : s.workspace <;> cases ht : t.workspace <;> simp [hs, ht] at same ⊢

theorem Agree.onCompiled {job : CompileJob} (about : job.uri = uri) (result : Except Fault (Verdict × Text)) :
    Turn.Agree uri (t.text? uri = s.text? uri) (s.onCompiled job result) (t.onCompiled job result) := by
  subst about
  cases result with
  | error fault =>
    cases fault with
    | tool failure => exact ⟨rfl, rfl, agree, id⟩
    | _ => exact ⟨rfl, rfl, agree, id⟩
  | ok found =>
    obtain ⟨verdict, output⟩ := found
    simp only [ServerState.onCompiled, storeVerdict_eq]
    cases verdict.findings with
    | error f => exact ⟨rfl, rfl, agree, id⟩
    | ok held =>
      have kept := agree.keep held
      refine ⟨congrArg ([·]) kept.compilePublication, rfl, kept, fun same => ?_⟩
      have workspace := (t.keep_frame job.uri held).2.2.1
      have workspace' := (s.keep_frame job.uri held).2.2.1
      simpa only [text?, Functor.map, Except.map, workspace, workspace'] using same

theorem Agree.onCommand {name : Text} {arguments : List Json} (m : Machine)
    (about : ∀ job, ClientMessage.compileJob? (.command name arguments) = some job → job.uri = uri) :
    Turn.Agree uri (t.text? uri = s.text? uri) (s.onCommand m name arguments).2
      (t.onCommand m name arguments).2 := by
  unfold ServerState.onCommand ServerState.onCompile
  split
  next hn =>
    cases ht : compileTarget? arguments with
    | none => exact ⟨rfl, rfl, agree, id⟩
    | some target =>
      dsimp only
      cases hj : CompileJob.ofTarget target with
      | error f => exact ⟨rfl, rfl, agree, id⟩
      | ok job =>
        have named : job.uri = uri :=
          about job (by simp [ClientMessage.compileJob?, hn, ht, hj, Except.toOption])
        have ended := agree.onCompiled named (compileProgram m s.settings (.ofText job.path)).2
        rw [agree.settings]
        exact ⟨ended.sent, ended.outcome, ended.state, ended.text⟩
  next => exact ⟨rfl, rfl, agree, id⟩

theorem Agree.onGreeting (env : Environment) (g : Greeting) :
    Turn.Agree uri (t.text? uri = s.text? uri) (s.onGreeting env g) (t.onGreeting env g) := by
  unfold ServerState.onGreeting
  cases g.checkRoot with
  | error f => exact ⟨rfl, rfl, agree, id⟩
  | ok _ =>
    dsimp only
    rw [agree.settings]
    exact ⟨rfl, rfl, ⟨rfl, agree.stopped, rfl, agree.analyzer, agree.kept⟩, fun _ => rfl⟩

theorem Agree.onShutdown : Turn.Agree uri (t.text? uri = s.text? uri) s.onShutdown t.onShutdown :=
  ⟨rfl, rfl, ⟨agree.settings, rfl, agree.unit, agree.analyzer, agree.kept⟩, id⟩

theorem Agree.onFolders (uris : List Text) :
    Turn.Agree uri (t.text? uri = s.text? uri) (s.onFolders uris) (t.onFolders uris) := by
  have absent : t.workspace.isNone = s.workspace.isNone := by
    rw [Bool.eq_iff_iff, Option.isNone_iff_eq_none, Option.isNone_iff_eq_none, agree.workspace_none_iff]
  unfold ServerState.onFolders
  rw [absent]
  split
  next => exact ⟨rfl, rfl, agree, id⟩
  next => exact ⟨rfl, rfl, agree, id⟩

theorem Agree.onProgressCancelled (token : Json) :
    Turn.Agree uri (t.text? uri = s.text? uri) (s.onProgressCancelled token)
      (t.onProgressCancelled token) := by
  unfold ServerState.onProgressCancelled
  split
  next => exact ⟨rfl, rfl, agree, id⟩
  next => exact ⟨rfl, rfl, agree, id⟩

theorem Agree.onResolve (fields : List (Text × Json)) :
    Turn.Agree uri (t.text? uri = s.text? uri) (s.onResolve fields) (t.onResolve fields) := by
  unfold ServerState.onResolve
  cases resolveFields fields with
  | error f => exact ⟨rfl, rfl, agree, id⟩
  | ok fields => exact ⟨rfl, rfl, agree, id⟩

variable (text : t.text? uri = s.text? uri)

include text

theorem Agree.document : t.document uri = s.document uri := by
  unfold ServerState.document
  have absent := agree.workspace_none_iff
  have same := text
  unfold text? at same
  cases hs : s.workspace with
  | none =>
    rw [absent.mpr hs]
  | some w =>
    cases ht : t.workspace with
    | none => simp [absent.mp ht] at hs
    | some v =>
      have found : v.documents.find? (percentDecode uri) = w.documents.find? (percentDecode uri) := by
        simpa [hs, ht] using same
      simp only [Workspace.document, found]

theorem Agree.documentText (m : Machine) : t.documentText m uri = s.documentText m uri := by
  unfold ServerState.documentText
  rw [agree.document text]

theorem Agree.hearing {news : DocumentNews} (about : news.uri = uri) :
    (∃ f, ∀ next, s.hearing news next = .fault s f ∧ t.hearing news next = .fault t f) ∨
      ∃ s' t', (∀ next, s.hearing news next = next s' ∧ t.hearing news next = next t') ∧ Agree uri s' t' ∧
        t'.text? uri = s'.text? uri := by
  subst about
  have absent := agree.workspace_none_iff
  cases hs : s.workspace with
  | none =>
    refine .inl ⟨.noWorkspace, fun next => ?_⟩
    simp [ServerState.hearing, hs, absent.mpr hs]
  | some w =>
    cases ht : t.workspace with
    | none => simp [absent.mp ht] at hs
    | some v =>
      have unit : v.unit = w.unit := by simpa [hs, ht] using agree.unit
      have found : v.documents.find? (percentDecode news.uri) =
          w.documents.find? (percentDecode news.uri) := by
        simpa [text?, hs, ht] using text
      have heard : (∃ f, w.hear news = .error f ∧ v.hear news = .error f) ∨
          ∃ w' v', w.hear news = .ok w' ∧ v.hear news = .ok v' ∧ v'.unit = w'.unit ∧
            v'.documents.find? (percentDecode news.uri) = w'.documents.find? (percentDecode news.uri) :=
        Workspace.hear_congr unit found
      rcases heard with ⟨f, hw, hv⟩ | ⟨w', v', hw, hv, unit', found'⟩
      · refine .inl ⟨f, fun next => ?_⟩
        simp [ServerState.hearing, hs, ht, hw, hv]
      · have agree' : Agree news.uri { s with workspace := some w' } { t with workspace := some v' } :=
          ⟨agree.settings, agree.stopped, congrArg some unit', agree.analyzer, agree.kept⟩
        refine .inr ⟨_, _, fun next => ?_, agree', found'⟩
        simp [ServerState.hearing, hs, ht, hw, hv]

theorem Agree.onOpened (content : Text) :
    Turn.Agree uri (t.text? uri = s.text? uri) (s.onOpened uri content) (t.onOpened uri content) := by
  unfold ServerState.onOpened
  have about : DocumentNews.uri (.opened uri content) = uri := rfl
  rcases agree.hearing text about with ⟨f, fault⟩ | ⟨s', t', taken, agree', text'⟩
  · rw [(fault _).1, (fault _).2]
    exact ⟨rfl, rfl, agree, id⟩
  · rw [(taken _).1, (taken _).2]
    have analyzed := agree'.analyze content
    exact ⟨congrArg ([·]) analyzed.publication, rfl, analyzed, fun _ => text'⟩

theorem Agree.onChanged (m : Machine) (edits : List TextEdit) :
    Turn.Agree uri (t.text? uri = s.text? uri) (s.onChanged m uri edits) (t.onChanged m uri edits) := by
  unfold ServerState.onChanged
  have about : DocumentNews.uri (.changed uri edits) = uri := rfl
  rcases agree.hearing text about with ⟨f, fault⟩ | ⟨s', t', taken, agree', text'⟩
  · rw [(fault _).1, (fault _).2]
    exact ⟨rfl, rfl, agree, id⟩
  · rw [(taken _).1, (taken _).2]
    have forgotten := agree'.forgetFindings
    dsimp only
    rw [agree'.document text']
    cases s'.document uri with
    | error f => exact ⟨rfl, rfl, agree', fun _ => text'⟩
    | ok document =>
      dsimp only
      cases document.text m with
      | error f => exact ⟨rfl, rfl, forgotten, fun _ => text'⟩
      | ok content =>
        have analyzed := forgotten.analyze content
        exact ⟨congrArg ([·]) analyzed.publication, rfl, analyzed, fun _ => text'⟩

theorem Agree.onSaved (m : Machine) :
    Turn.Agree uri (t.text? uri = s.text? uri) (s.onSaved m uri) (t.onSaved m uri) := by
  unfold ServerState.onSaved
  rw [agree.documentText text]
  cases s.documentText m uri with
  | error f => exact ⟨rfl, rfl, agree, id⟩
  | ok content =>
    have analyzed := agree.analyze content
    exact ⟨congrArg ([·]) analyzed.publication, rfl, analyzed, id⟩

theorem Agree.onClosed : Turn.Agree uri (t.text? uri = s.text? uri) (s.onClosed uri) (t.onClosed uri) := by
  unfold ServerState.onClosed
  have about : DocumentNews.uri (.closed uri) = uri := rfl
  rcases agree.hearing text about with ⟨f, fault⟩ | ⟨s', t', taken, agree', text'⟩
  · rw [(fault _).1, (fault _).2]
    exact ⟨rfl, rfl, agree, id⟩
  · rw [(taken _).1, (taken _).2]
    have erased : Agree uri { s' with analyzers := s'.analyzers.erase uri }
        { t' with analyzers := t'.analyzers.erase uri } :=
      ⟨agree'.settings, agree'.stopped, agree'.unit, by simp [OrderedMap.find?_erase], agree'.kept⟩
    exact ⟨rfl, rfl, erased.forgetFindings, fun _ => text'⟩

theorem Agree.asked (m : Machine) (answer : Analyzer → Answer) :
    let turn (v : ServerState) : Turn :=
      match v.analyzerFor m uri with
      | .error f => .fault v f
      | .ok (analyzer, v) => ⟨v, [], [], .ok (answer analyzer)⟩
    Turn.Agree uri (t.text? uri = s.text? uri) (turn s) (turn t) := by
  intro turn
  dsimp only [turn, ServerState.analyzerFor]
  rw [agree.analyzer, agree.documentText text, agree.settings]
  cases s.analyzers.find? uri with
  | some analyzer => exact ⟨rfl, rfl, agree, id⟩
  | none =>
    cases s.documentText m uri with
    | error f => exact ⟨rfl, rfl, agree, id⟩
    | ok content => exact ⟨rfl, rfl, agree.analyze content, id⟩

end SameDocument

end ServerState

end BasicWorkbench
