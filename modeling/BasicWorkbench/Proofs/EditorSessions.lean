import BasicWorkbench.Proofs.CompileProvenance

namespace BasicWorkbench

/-- What a message tells of the texts that the editor has open. A document is opened if the workspace takes
it; only open ones are changed, saved, closed or asked about. A new text is known from the editor alone. -/
def ClientMessage.Tells (s : ServerState) (texts : OrderedMap Text) (message : ClientMessage)
    (texts' : OrderedMap Text) : Prop :=
  match message with
  | .opened uri text => s.Heeds (.opened uri text) ∧ texts' = OrderedMap.insert uri text texts
  | .changed uri _ => (texts.find? uri).isSome ∧ ∃ text, texts' = OrderedMap.insert uri text texts
  | .closed uri => (texts.find? uri).isSome ∧ texts' = texts.erase uri
  | .saved uri | .completion uri _ | .outline uri => (texts.find? uri).isSome ∧ texts' = texts
  | _ => texts' = texts

def ServerState.Holds (s : ServerState) (texts : OrderedMap Text) : Prop :=
  ∀ uri text, texts.find? uri = some text → s.document uri = .ok (.opened text)

/-- The messages of an editor, the latest in front, with the texts that it has open and the state of a
server whose workspace holds them. Every run comes to its end before the next message, and nothing follows
a shutdown. -/
inductive EditorSession : List Moment → OrderedMap Text → ServerState → Prop
  | start (env : Environment) : EditorSession [] [] (.fresh env)
  | next {past texts texts' s} (m : Machine) (env : Environment) (message : ClientMessage) :
      EditorSession past texts s → s.stopped = false → message.Tells s texts texts' →
      (s.react (.heard m env message)).1.Holds texts' →
      EditorSession (⟨s, .heard m env message⟩ :: past) texts' (s.react (.heard m env message)).1

theorem EditorSession.session {past : List Moment} {texts : OrderedMap Text} {s : ServerState}
    (editing : EditorSession past texts s) : Session past s := by
  induction editing with
  | start env => exact .start env
  | next m env message _ _ _ _ ih => exact .next _ ih trivial

theorem EditorSession.holds {past : List Moment} {texts : OrderedMap Text} {s : ServerState}
    (editing : EditorSession past texts s) : s.Holds texts := by
  cases editing with
  | start env => intro uri text h; simp [OrderedMap.find?] at h
  | next m env message _ _ _ holds => exact holds

def Moment.findingsAfter (x : Moment) (uri : Text) (known : List Diagnostic) : List Diagnostic :=
  if x.event.news? = some uri then []
  else
    match x.before.run? x.event with
    | none => known
    | some run =>
      if run.job.uri = uri then
        match run.findings? with
        | none => known
        | some held => held.getD []
      else known

/-- What the last run for a URI found that had a result since the document was changed or closed. -/
def lastFindings (uri : Text) : List Moment → List Diagnostic
  | [] => []
  | x :: past => x.findingsAfter uri (lastFindings uri past)

def lastShown? (uri : Text) : List Moment → Option (List Diagnostic)
  | [] => none
  | x :: past =>
    match (shownIn (x.before.react x.event).2).reverse.find? (·.1 = uri) with
    | some shown => some shown.2
    | none => lastShown? uri past

theorem Moment.findingsAfter_of_news {x : Moment} {uri : Text} (news : x.IsNews uri)
    (known : List Diagnostic) :
    x.findingsAfter uri known = [] :=
  if_pos news

theorem Moment.findingsAfter_of_leaves {x : Moment} {uri : Text} {held : Option (List Diagnostic)}
    (left : x.Leaves uri held) (known : List Diagnostic) :
    x.findingsAfter uri known = held.getD [] := by
  have quiet : ¬x.event.news? = some uri := left.not_news
  obtain ⟨run, hr, hu, hf⟩ := left
  simp [findingsAfter, quiet, hr, hu, hf]

theorem Moment.findingsAfter_of_neither {x : Moment} {uri : Text} (news : ¬x.IsNews uri)
    (left : ∀ held, ¬x.Leaves uri held) (known : List Diagnostic) :
    x.findingsAfter uri known = known := by
  have quiet : ¬x.event.news? = some uri := news
  rw [findingsAfter, if_neg quiet]
  cases hr : x.before.run? x.event with
  | none => rfl
  | some run =>
    by_cases hu : run.job.uri = uri
    · cases hf : run.findings? with
      | none => simp [hu, hf]
      | some held => exact absurd ⟨run, hr, hu, hf⟩ (left held)
    · simp [hu]

namespace ServerState

/-- Where news are heeded, the findings are those that the moment makes of the ones before it. -/
theorem findings_react {s : ServerState} {event : ServerEvent} {uri : Text}
    (heeded : Moment.IsNews ⟨s, event⟩ uri → Moment.IsHeeded ⟨s, event⟩) :
    (s.react event).1.findings uri = Moment.findingsAfter ⟨s, event⟩ uri (s.findings uri) := by
  have kept := (s.step_react event).find?_findings uri
  generalize (s.react event).1 = t at kept ⊢
  by_cases news : Moment.IsNews ⟨s, event⟩ uri
  · rw [Moment.findingsAfter_of_news news]
    have gone : t.compilerDiagnostics.find? uri = none := by
      refine Option.eq_none_iff_forall_ne_some.mpr fun diagnostics found => ?_
      rcases (kept diagnostics).mp found with left | ⟨superseded, _⟩
      · exact left.not_news news
      · exact superseded (.inl ⟨news, heeded news⟩)
    simp [findings, gone]
  · by_cases left : ∃ held, Moment.Leaves ⟨s, event⟩ uri held
    · obtain ⟨held, left⟩ := left
      rw [Moment.findingsAfter_of_leaves left]
      have same : t.compilerDiagnostics.find? uri = held := by
        refine Option.ext fun diagnostics => (kept diagnostics).trans ?_
        constructor
        · intro h
          rcases h with other | ⟨superseded, _⟩
          · exact left.unique other
          · exact absurd (.inr ⟨held, left⟩) superseded
        · rintro rfl
          exact .inl left
      simp [findings, same]
    · rw [Moment.findingsAfter_of_neither news (fun held h => left ⟨held, h⟩)]
      have same : t.compilerDiagnostics.find? uri = s.compilerDiagnostics.find? uri := by
        have still : ¬Moment.Supersedes ⟨s, event⟩ uri := by
          intro supersedes
          rcases supersedes with ⟨heard, _⟩ | left'
          · exact news heard
          · exact left left'
        refine Option.ext fun diagnostics => (kept diagnostics).trans ?_
        constructor
        · intro h
          rcases h with other | ⟨_, known⟩
          · exact absurd ⟨_, other⟩ left
          · exact known
        · intro known
          exact .inr ⟨still, known⟩
      simp [findings, same]

/-- The diagnostics that an event shows last for a URI, if any, can be told from the state afterwards. -/
theorem lastShown?_react (s : ServerState) (event : ServerEvent) (past : List Moment) (uri : Text) :
    lastShown? uri (⟨s, event⟩ :: past) =
      if uri ∈ (shownIn (s.react event).2).map (·.1) then some ((s.react event).1.shownAfterRun uri)
      else lastShown? uri past := by
  rw [lastShown?]
  cases h : (shownIn (s.react event).2).reverse.find? (·.1 = uri) with
  | none =>
    rw [List.find?_eq_none] at h
    rw [if_neg]
    intro hm
    obtain ⟨shown, hs, eq⟩ := List.mem_map.mp hm
    exact h shown (List.mem_reverse.mpr hs) (by simpa using eq)
  | some shown =>
    have hs := List.mem_reverse.mp (List.mem_of_find?_eq_some h)
    obtain rfl : shown.1 = uri := by simpa using List.find?_some h
    rw [if_pos (List.mem_map.mpr ⟨shown, hs, rfl⟩)]
    exact congrArg some ((s.step_react event).shown_eq hs)

end ServerState

end BasicWorkbench
