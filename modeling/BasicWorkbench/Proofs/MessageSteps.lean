import BasicWorkbench.Proofs.ServerSteps

namespace BasicWorkbench

namespace ServerState

theorem documentText_eq_ok {m : Machine} {s : ServerState} {uri text : Text} :
    s.documentText m uri = .ok text ↔
      ∃ document, s.document uri = .ok document ∧ document.text m = .ok text := by
  unfold documentText
  cases s.document uri with
  | error f => simp [bind, Except.bind]
  | ok document => simp [bind, Except.bind]

theorem hearing_cases (s : ServerState) (news : DocumentNews) (next : ServerState → Turn) :
    ((∀ t, ¬s.Takes news t) ∧ ∃ f, s.hearing news next = .fault s f) ∨
      ∃ t, s.Takes news t ∧ s.hearing news next = next t := by
  unfold hearing
  cases hw : s.workspace with
  | none => exact .inl ⟨by rintro t ⟨w, w', h, _⟩; simp [hw] at h, _, rfl⟩
  | some w =>
    cases hh : w.hear news with
    | error f =>
      refine .inl ⟨?_, f, by simp [hh]⟩
      intro t takes
      obtain ⟨v, v', hv, taken, _⟩ := takes
      obtain rfl : w = v := by simpa [hw] using hv
      simp [hh] at taken
    | ok w' => exact .inr ⟨_, ⟨w, w', hw, hh, rfl⟩, by simp [hh]⟩

/-- A change without edits is taken even if its document cannot be looked for; then it changes nothing. -/
theorem eq_of_changed_without_document {s t : ServerState} {uri : Text} {edits : List TextEdit}
    {fault : Fault} (taken : s.Takes (.changed uri edits) t) (hd : t.document uri = .error fault) :
    t = s := by
  obtain ⟨w, w', hw, hh, rfl⟩ := taken
  simp only [document, Workspace.document] at hd
  simp only [Workspace.hear] at hh
  split at hh
  next text _ =>
    cases Except.ok.inj hh
    simp [OrderedMap.find?_insert] at hd
  next =>
    split at hh
    next => cases Except.ok.inj hh; rw [← hw]
    next => simp at hh

theorem analyzerFor_cases (m : Machine) (s : ServerState) (uri : Text) :
    (∃ f, s.analyzerFor m uri = .error f ∧ s.documentText m uri = .error f) ∨
      (∃ analyzer, s.analyzers.find? uri = some analyzer ∧ s.analyzerFor m uri = .ok (analyzer, s)) ∨
      ∃ text, s.analyzers.find? uri = none ∧ s.documentText m uri = .ok text ∧
        s.analyzerFor m uri = .ok (analysis s.settings text, s.analyze uri text) := by
  unfold analyzerFor
  cases ha : s.analyzers.find? uri with
  | some analyzer => exact .inr (.inl ⟨analyzer, rfl, rfl⟩)
  | none =>
    cases ht : s.documentText m uri with
    | error f => exact .inl ⟨f, rfl, rfl⟩
    | ok text => exact .inr (.inr ⟨text, rfl, rfl, rfl⟩)

theorem shownFor_analyze (s : ServerState) (uri text : Text) :
    (s.analyze uri text).shownFor uri =
      limitDiagnostics s.settings.maxProblems ((analysis s.settings text).diagnostics ++ s.findings uri) := by
  simp [shownFor, diagnosticsFor, analyze, findings, OrderedMap.find?_insert]

/-- Documents are analyzed again as long as they can be read, and each is shown as if it were the first. -/
theorem reanalyze_spec (m : Machine) (s : ServerState) (uris : List Text) :
    ∃ read : List (Text × Text),
      (∀ document ∈ read, s.documentText m document.1 = .ok document.2) ∧
      read.map (·.1) = uris.takeWhile (fun uri => (s.documentText m uri).isOk) ∧
      (reanalyze m s uris).state = s.analyzeAll read ∧
      shownIn (reanalyze m s uris).sent =
        read.map fun document => (document.1, (s.analyze document.1 document.2).shownFor document.1) := by
  induction uris generalizing s with
  | nil => exact ⟨[], by simp, rfl, rfl, rfl⟩
  | cons uri uris ih =>
    cases ht : s.documentText m uri with
    | error f =>
      refine ⟨[], by simp, ?_, ?_, ?_⟩
      · simp [ht, Except.isOk, Except.toBool]
      · simp [reanalyze, ht, Turn.fault, analyzeAll]
      · simp [reanalyze, ht, Turn.fault, shownIn]
    | ok text =>
      obtain ⟨read, texts, all, state, shown⟩ := ih (s.analyze uri text)
      refine ⟨(uri, text) :: read, ?_, ?_, ?_, ?_⟩
      · intro document hm
        rcases List.mem_cons.mp hm with rfl | hm
        · exact ht
        · exact texts document hm
      · rw [List.map_cons, all, List.takeWhile_cons_of_pos (by simp [ht, Except.isOk, Except.toBool])]
        rfl
      · simpa [reanalyze, ht, analyzeAll] using state
      · have head : shownIn (reanalyze m s (uri :: uris)).sent =
            (uri, (s.analyze uri text).shownFor uri) ::
              shownIn (reanalyze m (s.analyze uri text) uris).sent := by
          simp [reanalyze, ht, shownIn, ServerMessage.shown?, publication, shownFor]
        rw [head, shown]
        simp only [shownFor_analyze, List.map_cons]
        rfl

section Running

variable {m : Machine} {env : Environment} {s : ServerState} (running : s.stopped = false)

include running

theorem step_opened (uri text : Text) :
    Step s (.heard m env (.opened uri text)) (s.onOpened uri text).state
      (shownIn (s.onOpened uri text).sent) := by
  unfold onOpened
  rcases hearing_cases s (.opened uri text) _ with ⟨refused, f, eq⟩ | ⟨t, taken, eq⟩
  · rw [eq]
    exact .still (.inr fun ⟨t, taken⟩ => refused t taken)
  · rw [eq]
    exact .opened running taken

theorem step_changed (uri : Text) (edits : List TextEdit) :
    Step s (.heard m env (.changed uri edits)) (s.onChanged m uri edits).state
      (shownIn (s.onChanged m uri edits).sent) := by
  unfold onChanged
  rcases hearing_cases s (.changed uri edits) _ with ⟨refused, f, eq⟩ | ⟨t, taken, eq⟩
  · rw [eq]
    exact .still (.inr fun ⟨t, _, taken, _⟩ => refused t taken)
  · rw [eq]
    cases hd : t.document uri with
    | error f =>
      have still : ¬s.Heeds (.changed uri edits) := by
        intro heeds
        obtain ⟨t', document, taken', hd'⟩ := heeds
        obtain rfl := taken.unique taken'
        simp [hd] at hd'
      obtain rfl := eq_of_changed_without_document taken hd
      simpa [hd] using .still (.inr still)
    | ok document =>
      cases ht : document.text m with
      | error f => simpa [ht] using .unread running taken hd ht
      | ok text => simpa [ht] using .changed running taken (documentText_eq_ok.mpr ⟨document, hd, ht⟩)

theorem step_saved (uri : Text) :
    Step s (.heard m env (.saved uri)) (s.onSaved m uri).state (shownIn (s.onSaved m uri).sent) := by
  unfold onSaved
  cases h : s.documentText m uri with
  | error f => exact .still (.inr ⟨f, h⟩)
  | ok text => exact .saved running h

theorem step_closed (uri : Text) :
    Step s (.heard m env (.closed uri)) (s.onClosed uri).state (shownIn (s.onClosed uri).sent) := by
  unfold onClosed
  rcases hearing_cases s (.closed uri) _ with ⟨refused, f, eq⟩ | ⟨t, taken, eq⟩
  · rw [eq]
    exact .still (.inr fun ⟨t, taken⟩ => refused t taken)
  · rw [eq]
    exact .closed running taken

/-- What is asked about a document makes its analyzer if there is none. -/
theorem step_asked {message : ClientMessage} {uri : Text}
    (named : (∃ position, message = .completion uri position) ∨ message = .outline uri)
    (answer : Analyzer → Answer) :
    let turn : Turn :=
      match s.analyzerFor m uri with
      | .error f => .fault s f
      | .ok (analyzer, s) => ⟨s, [], [], .ok (answer analyzer)⟩
    Step s (.heard m env message) turn.state (shownIn turn.sent) := by
  have ignores (h : (s.analyzers.find? uri).isSome ∨ ∃ f, s.documentText m uri = .error f) :
      s.Ignores (.heard m env message) := by
    rcases named with ⟨position, rfl⟩ | rfl
    · exact .inr h
    · exact .inr h
  rcases analyzerFor_cases m s uri with ⟨f, eq, hf⟩ | ⟨analyzer, known, eq⟩ | ⟨text, unknown, ht, eq⟩
  · rw [eq]
    exact .still (ignores (.inr ⟨f, hf⟩))
  · rw [eq]
    exact .still (ignores (.inl (by simp [known])))
  · rw [eq]
    exact .asked running named unknown ht

theorem step_completion (uri : Text) (position : Position) :
    Step s (.heard m env (.completion uri position)) (s.onCompletion m uri position).state
      (shownIn (s.onCompletion m uri position).sent) :=
  step_asked running (.inl ⟨position, rfl⟩) fun analyzer =>
    .completions (analyzer.completions position.line position.character)

theorem step_outline (uri : Text) :
    Step s (.heard m env (.outline uri)) (s.onOutline m uri).state (shownIn (s.onOutline m uri).sent) :=
  step_asked running (.inr rfl) fun analyzer => .outline analyzer.outline

theorem step_configured (configuration : Json) :
    Step s (.heard m env (.configured configuration)) (s.onConfigured m env configuration).state
      (shownIn (s.onConfigured m env configuration).sent) := by
  unfold onConfigured
  cases hc : Settings.ofConfiguration configuration with
  | error f => exact .still (.inr ⟨f, hc⟩)
  | ok settings =>
    obtain ⟨read, texts, all, state, shown⟩ :=
      reanalyze_spec m { s with settings := settings.resolve env } s.analyzers.keys
    simp only [state, shown]
    exact .configured running hc rfl texts all

theorem step_greeting (g : Greeting) :
    Step s (.heard m env (.greeting g)) (s.onGreeting env g).state (shownIn (s.onGreeting env g).sent) := by
  unfold onGreeting
  cases hr : g.checkRoot with
  | error f => exact .still (.inr ⟨f, hr⟩)
  | ok _ =>
    apply Step.greeted running hr
    cases g.options with
    | obj fields => exact .inr ⟨fields, rfl⟩
    | _ => exact .inl rfl

theorem step_notebook (news : NotebookNews) :
    Step s (.heard m env (.notebook news)) (s.onNotebook news).state (shownIn (s.onNotebook news).sent) := by
  unfold onNotebook
  cases hw : s.workspace with
  | none => exact .still (.inr hw)
  | some w =>
    dsimp only
    cases (w.hearOfNotebook news).2 with
    | ok _ => exact .notebook running
    | error f => exact .notebook running

end Running

end ServerState

end BasicWorkbench
