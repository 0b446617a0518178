import BasicWorkbench.Proofs.DocumentTurns

namespace BasicWorkbench

def ServerEvent.concerns (uri : Text) (event : ServerEvent) : Bool := event.addressee?.all (· == uri)

/-- What happens is proper, one event after the other. -/
def Conforms (opened : List Text) : List ServerEvent → Prop
  | [] => True
  | event :: events => event.IsProper opened ∧ Conforms (event.openAfter opened) events

/-- Never are two documents open whose URIs differ but are the same after decoding. -/
def KeptApart (opened : List Text) : List ServerEvent → Prop
  | [] => True
  | event :: events => Apart (event.openAfter opened) ∧ KeptApart (event.openAfter opened) events

instance decidableConforms :
    (opened : List Text) → (events : List ServerEvent) → Decidable (Conforms opened events)
  | _, [] => .isTrue trivial
  | opened, event :: events =>
    haveI := decidableConforms (event.openAfter opened) events
    inferInstanceAs (Decidable (event.IsProper opened ∧ Conforms (event.openAfter opened) events))

instance decidableKeptApart :
    (opened : List Text) → (events : List ServerEvent) → Decidable (KeptApart opened events)
  | _, [] => .isTrue trivial
  | opened, event :: events =>
    haveI := decidableKeptApart (event.openAfter opened) events
    inferInstanceAs (Decidable (Apart (event.openAfter opened) ∧ KeptApart (event.openAfter opened) events))

namespace ServerState

/-- All that is shown for a URI while events happen, in its order. -/
def shownDuring (uri : Text) (s : ServerState) : List ServerEvent → List (List Diagnostic)
  | [] => []
  | event :: events => shownOf uri (s.react event).2 ++ (s.react event).1.shownDuring uri events

def answersDuring (uri : Text) (s : ServerState) : List ServerEvent → List (List ServerMessage)
  | [] => []
  | event :: events =>
    (if event.addressee? = some uri then [(s.react event).2] else []) ++
      (s.react event).1.answersDuring uri events

end ServerState

/-- The documents that are open as far as the events for one URI tell. -/
def ownOnly (uri : Text) (opened : List Text) : List Text := opened.filter (· = uri)

theorem mem_ownOnly {uri other : Text} {opened : List Text} :
    other ∈ ownOnly uri opened ↔ other ∈ opened ∧ other = uri := by
  simp [ownOnly]

theorem ServerEvent.concerns_iff {uri : Text} {event : ServerEvent} :
    event.concerns uri = true ↔ ∀ other, event.addressee? = some other → other = uri := by
  cases h : event.addressee? <;> simp [concerns, h]

theorem openAfter_ownOnly {uri : Text} {event : ServerEvent} (concerned : event.concerns uri = true)
    (opened : List Text) : event.openAfter (ownOnly uri opened) = ownOnly uri (event.openAfter opened) := by
  cases event with
  | began job => rfl
  | ended start job result => rfl
  | heard m env message =>
    cases message with
    | opened other text =>
      obtain rfl : other = uri := ServerEvent.concerns_iff.mp concerned other rfl
      simp [ServerEvent.openAfter, ownOnly]
    | closed other => simp [ServerEvent.openAfter, ownOnly, List.filter_filter, Bool.and_comm]
    | _ => rfl

theorem ownOnly_openAfter_of_other {uri other : Text} {event : ServerEvent}
    (about : event.addressee? = some other) (ne : other ≠ uri) (opened : List Text) :
    ownOnly uri (event.openAfter opened) = ownOnly uri opened := by
  cases event with
  | began job => rfl
  | ended start job result => rfl
  | heard m env message =>
    cases message with
    | opened uri' text =>
      obtain rfl : uri' = other := Option.some.inj about
      simp [ServerEvent.openAfter, ownOnly, ne]
    | closed uri' =>
      obtain rfl : uri' = other := Option.some.inj about
      simp only [ServerEvent.openAfter, ownOnly, List.filter_filter]
      refine List.filter_congr fun a _ => ?_
      by_cases same : a = uri
      · simp [same, ne.symm]
      · simp [same]
    | _ => rfl

theorem IsProper.ownOnly {uri : Text} {event : ServerEvent} (concerned : event.concerns uri = true)
    {opened : List Text} (proper : event.IsProper opened) : event.IsProper (ownOnly uri opened) := by
  have named := ServerEvent.concerns_iff.mp concerned
  cases event with
  | began job => trivial
  | ended start job result => trivial
  | heard m env message =>
    cases message with
    | greeting g =>
      obtain rfl : opened = [] := proper
      rfl
    | changed other _ | saved other | closed other | completion other _ | outline other =>
      exact mem_ownOnly.mpr ⟨proper, named other rfl⟩
    | notebook news => exact proper.elim
    | _ => trivial

namespace ServerState

/-- A server that hears of one document alone mirrors one that hears of others too. -/
structure Mirrors (uri : Text) (opened : List Text) (s t : ServerState) : Prop where
  agree : Agree uri s t
  text : s.stopped = false → uri ∈ opened → t.text? uri = s.text? uri
  tidy : s.stopped = false → s.Tidy opened
  own : t.stopped = false → t.Tidy (ownOnly uri opened)
  apart : Apart opened

theorem Tidy.text?_of_not_open {opened : List Text} {s : ServerState} (tidy : s.Tidy opened) {uri : Text}
    (apart : Apart (uri :: opened)) (closed : uri ∉ opened) : s.text? uri = none := by
  rw [← Option.not_isSome_iff_eq_none]
  intro known
  cases hw : s.workspace with
  | none => simp [text?, hw] at known
  | some w =>
    obtain ⟨other, ho, same⟩ := tidy.documents w hw (percentDecode uri) (by simpa [text?, hw] using known)
    obtain rfl := apart other (List.mem_cons_of_mem uri ho) uri List.mem_cons_self same
    exact closed ho

/-- An event does the same to a document in two states: what it shows for the document, and all that is sent
because of it if it is about the document. -/
structure SameReaction (uri : Text) (s t : ServerState) (event : ServerEvent) : Prop where
  agree : Agree uri (s.react event).1 (t.react event).1
  text : t.text? uri = s.text? uri → (t.react event).1.text? uri = (s.react event).1.text? uri
  shown : shownOf uri (t.react event).2 = shownOf uri (s.react event).2
  sent : event.addressee? = some uri → (t.react event).2 = (s.react event).2

theorem SameReaction.of_running {uri : Text} {s t : ServerState} {m : Machine} {env : Environment}
    {message : ClientMessage} (running : s.stopped = false) (running' : t.stopped = false)
    (same : Turn.Agree uri (t.text? uri = s.text? uri) (s.turn m env message).2 (t.turn m env message).2) :
    SameReaction uri s t (.heard m env message) := by
  have react : ∀ v : ServerState, v.stopped = false → v.react (.heard m env message) =
      ((v.turn m env message).2.state, (v.turn m env message).2.messages message.isRequest) := by
    intro v hv
    simp only [ServerState.react, receive, hv, Bool.false_eq_true, if_false]
  have sent := same.messages message.isRequest
  constructor
  case agree =>
    rw [react s running, react t running']
    exact same.state
  case text =>
    rw [react s running, react t running']
    exact same.text
  case shown => rw [react s running, react t running', sent]
  case sent =>
    intro _
    rw [react s running, react t running', sent]

theorem SameReaction.of_stopped {uri : Text} {s t : ServerState} {m : Machine} {env : Environment}
    {message : ClientMessage} (agree : Agree uri s t) (stopped : s.stopped = true) :
    SameReaction uri s t (.heard m env message) := by
  have ignored : ∀ v : ServerState, v.stopped = true → v.react (.heard m env message) = (v, []) := by
    intro v hv
    simp only [ServerState.react, receive, hv, if_true]
  have left := ignored s stopped
  have left' := ignored t (agree.stopped.trans stopped)
  constructor
  case agree =>
    rw [left, left']
    exact agree
  case text =>
    rw [left, left']
    exact id
  case shown => rw [left, left']
  case sent =>
    intro _
    rw [left, left']

namespace Mirrors

variable {uri : Text} {opened : List Text} {s t : ServerState} (mirrors : Mirrors uri opened s t)

include mirrors

theorem text_of_opened (running : s.stopped = false) (apart : Apart (uri :: opened)) :
    t.text? uri = s.text? uri := by
  by_cases open' : uri ∈ opened
  · exact mirrors.text running open'
  · have own := mirrors.own (mirrors.agree.stopped.trans running)
    have closed : uri ∉ ownOnly uri opened := fun h => open' (mem_ownOnly.mp h).1
    have apart' : Apart (uri :: ownOnly uri opened) := apart.subset fun other ho => by
      rcases List.mem_cons.mp ho with rfl | ho
      · exact List.mem_cons_self
      · exact List.mem_cons_of_mem uri (mem_ownOnly.mp ho).1
    rw [own.text?_of_not_open apart' closed, (mirrors.tidy running).text?_of_not_open apart open']

theorem turn {m : Machine} {env : Environment} {message : ClientMessage} (running : s.stopped = false)
    (proper : ServerEvent.IsProper opened (.heard m env message))
    (apart : Apart (ServerEvent.openAfter opened (.heard m env message)))
    (concerned : ServerEvent.concerns uri (.heard m env message) = true)
    (other : ∀ configuration, message ≠ .configured configuration) :
    Turn.Agree uri (t.text? uri = s.text? uri) (s.turn m env message).2 (t.turn m env message).2 := by
  have agree := mirrors.agree
  have named := ServerEvent.concerns_iff.mp concerned
  cases message with
  | opened uri' text =>
    obtain rfl : uri' = uri := named uri' rfl
    exact agree.onOpened (mirrors.text_of_opened running apart) text
  | changed uri' edits =>
    obtain rfl : uri' = uri := named uri' rfl
    exact agree.onChanged (mirrors.text running proper) m edits
  | saved uri' =>
    obtain rfl : uri' = uri := named uri' rfl
    exact agree.onSaved (mirrors.text running proper) m
  | closed uri' =>
    obtain rfl : uri' = uri := named uri' rfl
    exact agree.onClosed (mirrors.text running proper)
  | completion uri' position =>
    obtain rfl : uri' = uri := named uri' rfl
    exact agree.asked (mirrors.text running proper) m fun analyzer =>
      .completions (analyzer.completions position.line position.character)
  | outline uri' =>
    obtain rfl : uri' = uri := named uri' rfl
    exact agree.asked (mirrors.text running proper) m fun analyzer => .outline analyzer.outline
  | command name arguments =>
    refine agree.onCommand m fun job hj => named job.uri ?_
    simp [ServerEvent.addressee?, ClientMessage.addressee?, hj]
  | configured configuration => exact absurd rfl (other configuration)
  | notebook news => exact proper.elim
  | greeting g => exact agree.onGreeting env g
  | shutdown => exact agree.onShutdown
  | folders uris => exact agree.onFolders uris
  | resolveItem fields => exact agree.onResolve fields
  | progressCancelled token => exact agree.onProgressCancelled token
  | greetingDone => exact ⟨rfl, rfl, agree, id⟩
  | unhandled => exact ⟨rfl, rfl, agree, id⟩

theorem analyzedText?_eq (running : s.stopped = false) : t.analyzedText? uri = s.analyzedText? uri := by
  unfold analyzedText?
  rw [mirrors.agree.analyzer]
  split
  next known =>
    have analyzed := (mirrors.tidy running).analyzed uri ((OrderedMap.mem_keys_iff _ _).mpr known)
    exact mirrors.text running analyzed.1
  next => rfl

theorem configured (running : s.stopped = false) (m : Machine) (env : Environment) (configuration : Json) :
    SameReaction uri s t (.heard m env (.configured configuration)) := by
  have agree := mirrors.agree
  have running' := agree.stopped.trans running
  have unaddressed : ServerEvent.addressee? (.heard m env (.configured configuration)) ≠ some uri := by
    simp [ServerEvent.addressee?, ClientMessage.addressee?, ClientMessage.compileJob?]
  cases given : Settings.ofConfiguration configuration with
  | error f =>
    have refused : ∀ v : ServerState, v.stopped = false →
        v.react (.heard m env (.configured configuration)) =
          (v, [.showError ("Error in server: " ++ (Refusal.fault f).message)]) := by
      intro v hv
      simp only [ServerState.react, receive, hv, ServerState.turn, onConfigured, given]
      rfl
    have left := refused s running
    have left' := refused t running'
    exact ⟨by rw [left, left']; exact agree, by rw [left, left']; exact id, by rw [left, left'],
      fun about => absurd about unaddressed⟩
  | ok settings =>
    obtain ⟨settings₁, workspace₁, kept₁, stopped₁, analyzer₁, shown₁⟩ :=
      (mirrors.tidy running).configured running m env given uri
    obtain ⟨settings₂, workspace₂, kept₂, stopped₂, analyzer₂, shown₂⟩ :=
      (mirrors.own running').configured running' m env given uri
    have same := mirrors.analyzedText?_eq running
    refine ⟨⟨?_, ?_, ?_, ?_, ?_⟩, ?_, ?_, fun about => absurd about unaddressed⟩
    · rw [settings₁, settings₂]
    · rw [stopped₁, stopped₂, agree.stopped]
    · rw [workspace₁, workspace₂, agree.unit]
    · rw [analyzer₁, analyzer₂, same]
    · rw [kept₁, kept₂, agree.kept]
    · unfold text?
      rw [workspace₁, workspace₂]
      exact id
    · rw [shown₁, shown₂, same, findings, findings, agree.kept]

theorem react {event : ServerEvent} (proper : event.IsProper opened) (apart : Apart (event.openAfter opened))
    (concerned : event.concerns uri = true) : SameReaction uri s t event := by
  have agree := mirrors.agree
  cases event with
  | began job => exact ⟨agree, id, rfl, fun _ => rfl⟩
  | ended start job result =>
    have ended := agree.onCompiled (ServerEvent.concerns_iff.mp concerned job.uri rfl) result
    have sent := ended.messages true
    exact ⟨ended.state, ended.text, congrArg (shownOf uri) sent, fun _ => sent⟩
  | heard m env message =>
    cases running : s.stopped with
    | true => exact .of_stopped agree running
    | false =>
      by_cases plain : ∀ configuration, message ≠ .configured configuration
      · have same := mirrors.turn running proper apart concerned plain
        exact .of_running running (agree.stopped.trans running) same
      · obtain ⟨configuration, rfl⟩ : ∃ configuration, message = .configured configuration := by
          simpa using plain
        exact mirrors.configured running m env configuration

/-- An event about the document, or about none, keeps the mirror. -/
theorem kept {event : ServerEvent} (proper : event.IsProper opened) (apart : Apart (event.openAfter opened))
    (concerned : event.concerns uri = true) :
    Mirrors uri (event.openAfter opened) (s.react event).1 (t.react event).1 := by
  have reaction := mirrors.react proper apart concerned
  refine ⟨reaction.agree, ?_, ?_, ?_, apart⟩
  · intro running open'
    have before := (s.step_react event).running_before running
    rcases ServerEvent.mem_of_mem_openAfter open' with open' | ⟨m, env, content, rfl⟩
    · exact reaction.text (mirrors.text before open')
    · exact reaction.text (mirrors.text_of_opened before apart)
  · intro running
    exact (s.step_react event).tidy proper mirrors.apart mirrors.tidy running
  · intro running
    have own := IsProper.ownOnly concerned proper
    have apart' : Apart (ownOnly uri opened) := mirrors.apart.subset fun other ho => (mem_ownOnly.mp ho).1
    rw [← openAfter_ownOnly concerned]
    exact (t.step_react event).tidy own apart' mirrors.own running

/-- An event about another document keeps the mirror and shows nothing for this one. -/
theorem skipped {event : ServerEvent} {other : Text} (about : event.addressee? = some other)
    (ne : other ≠ uri) (proper : event.IsProper opened) (apart : Apart (event.openAfter opened)) :
    Mirrors uri (event.openAfter opened) (s.react event).1 t ∧ shownOf uri (s.react event).2 = [] := by
  have step := s.step_react event
  obtain ⟨agree, unshown⟩ := step.agree_of_other about ne
  refine ⟨⟨agree.symm.trans mirrors.agree, ?_, ?_, ?_, apart⟩, shownOf_eq_nil unshown⟩
  · intro running open'
    have before := step.running_before running
    rcases ServerEvent.mem_of_mem_openAfter open' with open' | ⟨m, env, content, rfl⟩
    · rw [mirrors.text before open', step.text?_of_other about ne proper mirrors.apart apart open']
    · exact absurd (Option.some.inj about).symm ne
  · intro running
    exact step.tidy proper mirrors.apart mirrors.tidy running
  · rw [ownOnly_openAfter_of_other about ne]
    exact mirrors.own

end Mirrors

/-- Both servers show the same for the document and answer the same about it. -/
theorem Mirrors.run {uri : Text} {opened : List Text} {s t : ServerState} {events : List ServerEvent}
    (mirrors : Mirrors uri opened s t) (conforms : Conforms opened events) (apart : KeptApart opened events) :
    t.shownDuring uri (events.filter (·.concerns uri)) = s.shownDuring uri events ∧
      t.answersDuring uri (events.filter (·.concerns uri)) = s.answersDuring uri events := by
  -- An event happens to both servers or to the first alone; either way the mirror is kept for the rest.
  induction events generalizing opened s t with
  | nil => exact ⟨rfl, rfl⟩
  | cons event events ih =>
    cases concerned : event.concerns uri with
    | true =>
      have reaction := mirrors.react conforms.1 apart.1 concerned
      obtain ⟨shown', sent'⟩ := ih (mirrors.kept conforms.1 apart.1 concerned) conforms.2 apart.2
      rw [List.filter_cons_of_pos concerned]
      simp only [shownDuring, answersDuring, reaction.shown, shown', sent']
      refine ⟨trivial, ?_⟩
      split
      next about => rw [reaction.sent about]
      next => rfl
    | false =>
      obtain ⟨other, about, ne⟩ : ∃ other, event.addressee? = some other ∧ other ≠ uri := by
        simpa [ServerEvent.concerns_iff] using Bool.eq_false_iff.mp concerned
      obtain ⟨mirrors', unshown⟩ := mirrors.skipped about ne conforms.1 apart.1
      obtain ⟨shown', sent'⟩ := ih mirrors' conforms.2 apart.2
      have unaddressed : event.addressee? ≠ some uri := by simpa [about] using ne
      rw [List.filter_cons_of_neg (by simp [concerned])]
      simp only [shownDuring, answersDuring, unshown, if_neg unaddressed, shown', sent']
      exact ⟨rfl, rfl⟩

theorem Mirrors.fresh (uri : Text) (env : Environment) : Mirrors uri [] (.fresh env) (.fresh env) where
  agree := .refl uri _
  text := by simp
  tidy := fun _ => .fresh env
  own := fun _ => .fresh env
  apart := by simp [Apart]

end ServerState

/-- What an editor is shown and answered for a document does not depend on the messages about others, as long
as no two open documents share a decoded URI. -/
theorem documents_isolated (env : Environment) (uri : Text) {events : List ServerEvent}
    (conforms : Conforms [] events) (apart : KeptApart [] events) :
    let own := events.filter (·.concerns uri)
    (ServerState.fresh env).shownDuring uri own = (ServerState.fresh env).shownDuring uri events ∧
      (ServerState.fresh env).answersDuring uri own = (ServerState.fresh env).answersDuring uri events :=
  (ServerState.Mirrors.fresh uri env).run conforms apart

def twoDocuments : List ServerEvent :=
  let m : Machine := ⟨[], [], []⟩
  let failed (line : Int) : Verdict := .failed [⟨"boom", some ⟨line, none⟩⟩]
  [.heard m [] (.greeting ⟨.null, none, none, [], false, false⟩),
    .heard m [] (.opened "file:///a" "If x\n"), .heard m [] (.opened "file:///b" "For i\n"),
    .began ⟨"file:///a", "/a"⟩, .began ⟨"file:///b", "/b"⟩, .ended 4 ⟨"file:///b", "/b"⟩ (.ok (failed 7, [])),
    .heard m [] (.configured (.obj [])), .ended 3 ⟨"file:///a", "/a"⟩ (.ok (failed 1, [])),
    .heard m [] (.closed "file:///b"), .heard m [] (.outline "file:///a"), .heard m [] (.saved "file:///a")]

theorem documents_isolated_two :
    let own := twoDocuments.filter (·.concerns "file:///a")
    let s : ServerState := .fresh []
    own.length = 7 ∧ s.shownDuring "file:///a" own = s.shownDuring "file:///a" twoDocuments ∧
      s.answersDuring "file:///a" own = s.answersDuring "file:///a" twoDocuments ∧
      (s.shownDuring "file:///a" twoDocuments).map List.length = [1, 1, 2, 2] := by
  have conforms : Conforms [] twoDocuments := by decide
  have apart : KeptApart [] twoDocuments := by decide
  obtain ⟨shown, answers⟩ := documents_isolated [] "file:///a" conforms apart
  exact ⟨by decide, shown, answers, by decide⟩

/-- Two URIs that differ but are the same after decoding: the text of one document is shown for the other. -/
theorem documents_share_decoded_uri :
    ∃ env uri events, Conforms [] events ∧
      (ServerState.fresh env).shownDuring uri (events.filter (·.concerns uri)) ≠
        (ServerState.fresh env).shownDuring uri events := by
  let m : Machine := ⟨[], [], []⟩
  let greeting : ServerEvent := .heard m [] (.greeting ⟨.null, none, none, [], false, false⟩)
  let opening : ServerEvent := .heard m [] (.opened "file:///w/a%23b.sb" "x = 1\n")
  let other : ServerEvent := .heard m [] (.opened "file:///w/a#b.sb" "If x\n")
  let saving : ServerEvent := .heard m [] (.saved "file:///w/a%23b.sb")
  exact ⟨[], "file:///w/a%23b.sb", [greeting, opening, other, saving], by decide, by decide⟩

end BasicWorkbench
