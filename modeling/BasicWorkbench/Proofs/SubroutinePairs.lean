import Mathlib.Data.List.Nodup
import Mathlib.Data.List.Induction
import BasicWorkbench.Proofs.BlockEvents

namespace BasicWorkbench

def startAt (lines : List Text) (number : Nat) : Option SubroutineStart := lines[number]?.bind subroutineStartOn?

def endsAt (lines : List Text) (number : Nat) : Bool := lines[number]?.any endsSubroutine

/-- No subroutine starts or ends on a line between the two. -/
def QuietBetween (lines : List Text) (first last : Nat) : Prop :=
  ∀ number < last, first < number → startAt lines number = none ∧ endsAt lines number = false

instance (lines : List Text) (first last : Nat) : Decidable (QuietBetween lines first last) :=
  inferInstanceAs (Decidable
    (∀ number < last, first < number → startAt lines number = none ∧ endsAt lines number = false))

/-- A subroutine starts on the first line and ends on the last, a later one, and none starts or ends between. -/
structure Delimits (lines : List Text) (first last : Nat) : Prop where
  later : first < last
  starts : (startAt lines first).isSome = true
  ends : endsAt lines last = true
  quiet : QuietBetween lines first last

instance (lines : List Text) (first last : Nat) : Decidable (Delimits lines first last) :=
  decidable_of_iff (first < last ∧ (startAt lines first).isSome = true ∧ endsAt lines last = true ∧
      QuietBetween lines first last)
    ⟨fun h => ⟨h.1, h.2.1, h.2.2.1, h.2.2.2⟩, fun h => ⟨h.later, h.starts, h.ends, h.quiet⟩⟩

/-- The first and the last lines of subroutines, in order. -/
def subroutinePairs (lines : List Text) : List (Nat × Nat) :=
  (List.range lines.length).flatMap fun last =>
    ((List.range last).filter fun first => Delimits lines first last).map (·, last)

def subroutineBetween (lines : List Text) (pair : Nat × Nat) : Option Symbol := do
  let start ← startAt lines pair.1
  let closing ← lines[pair.2]?
  some (start.symbol pair.1 pair.2 closing)

def subroutinesOn (lines : List Text) : List Symbol := (subroutinePairs lines).filterMap (subroutineBetween lines)

theorem subroutineStartOn?_of_ends {line : Text} (ends : endsSubroutine line = true) :
    subroutineStartOn? line = none := by
  rw [endsSubroutine_eq, Bool.and_eq_true_iff] at ends
  rw [subroutineStartOn?_eq 0, openerOn?_of_closes ends.1]
  rfl

def waitingBehind (waiting : Option (SubroutineStart × Nat)) (number : Nat) (line : Text) :
    Option (SubroutineStart × Nat) :=
  match subroutineStartOn? line with
  | some start => some (start, number)
  | none => if endsSubroutine line then none else waiting

def waitingAfter (waiting : Option (SubroutineStart × Nat)) (number : Nat) :
    List Text → Option (SubroutineStart × Nat)
  | [] => waiting
  | line :: lines => waitingAfter (waitingBehind waiting number line) (number + 1) lines

theorem waitingAfter_concat (waiting : Option (SubroutineStart × Nat)) (number : Nat) (lines : List Text)
    (line : Text) :
    waitingAfter waiting number (lines ++ [line]) =
      waitingBehind (waitingAfter waiting number lines) (number + lines.length) line := by
  induction lines generalizing waiting number with
  | nil => rfl
  | cons head lines ih =>
    have place : number + 1 + lines.length = number + (head :: lines).length := by
      rw [List.length_cons]
      omega
    rw [List.cons_append, waitingAfter, ih, place, waitingAfter]

theorem filter_range_eq_singleton {p : Nat → Bool} {n k : Nat} (within : k < n)
    (only : ∀ j < n, p j = true ↔ j = k) : (List.range n).filter p = [k] := by
  have same : ∀ j ∈ List.range n, p j = (j == k) := by
    intro j hj
    rw [Bool.eq_iff_iff, only j (List.mem_range.mp hj), beq_iff_eq]
  have once : (List.range n).count k = 1 :=
    List.count_eq_one_of_mem List.nodup_range (List.mem_range.mpr within)
  rw [List.filter_congr same, List.filter_beq, once]
  rfl

section Concat

variable {lines : List Text} {line : Text}

theorem startAt_concat (line : Text) {number : Nat} (within : number < lines.length) :
    startAt (lines ++ [line]) number = startAt lines number := by
  rw [startAt, List.getElem?_append_left within, startAt]

theorem startAt_last (lines : List Text) (line : Text) :
    startAt (lines ++ [line]) lines.length = subroutineStartOn? line := by
  rw [startAt, List.getElem?_concat_length, Option.bind_some]

theorem endsAt_concat (line : Text) {number : Nat} (within : number < lines.length) :
    endsAt (lines ++ [line]) number = endsAt lines number := by
  rw [endsAt, List.getElem?_append_left within, endsAt]

theorem endsAt_last (lines : List Text) (line : Text) :
    endsAt (lines ++ [line]) lines.length = endsSubroutine line := by
  rw [endsAt, List.getElem?_concat_length, Option.any_some]

theorem quietBetween_concat (line : Text) {first last : Nat} (within : last ≤ lines.length) :
    QuietBetween (lines ++ [line]) first last ↔ QuietBetween lines first last := by
  refine forall_congr' fun number => ?_
  constructor
  · intro quiet before behind
    rw [← startAt_concat line (by omega), ← endsAt_concat line (by omega)]
    exact quiet before behind
  · intro quiet before behind
    rw [startAt_concat _ (by omega), endsAt_concat _ (by omega)]
    exact quiet before behind

/-- The subroutine that waits is the one that started last, if none ended since. -/
theorem waitingAfter_eq_some_iff {start : SubroutineStart} {first : Nat} :
    waitingAfter none 0 lines = some (start, first) ↔
      first < lines.length ∧ startAt lines first = some start ∧ QuietBetween lines first lines.length := by
  induction lines using List.reverseRecOn generalizing start first with
  | nil => simp [waitingAfter]
  | append_singleton lines line ih =>
    have all : QuietBetween (lines ++ [line]) first (lines.length + 1) ↔
        QuietBetween lines first lines.length ∧
          (first < lines.length → subroutineStartOn? line = none ∧ endsSubroutine line = false) := by
      rw [← quietBetween_concat line (Nat.le_refl _), ← startAt_last lines, ← endsAt_last lines]
      constructor
      · intro quiet
        exact ⟨fun number before => quiet number (by omega), quiet lines.length (Nat.lt_succ_self _)⟩
      · rintro ⟨quiet, last⟩ number before behind
        by_cases within : number < lines.length
        · exact quiet number within behind
        · obtain rfl : number = lines.length := by omega
          exact last behind
    rw [waitingAfter_concat, Nat.zero_add, List.length_append, List.length_singleton, all, waitingBehind]
    cases starts : subroutineStartOn? line with
    | some opened =>
      constructor
      · intro same
        obtain ⟨rfl, rfl⟩ := Prod.mk.inj (Option.some.inj same)
        refine ⟨Nat.lt_succ_self _, (startAt_last _ _).trans starts, fun number before behind => ?_, fun before => ?_⟩
        · omega
        · omega
      · rintro ⟨within, found, _, quiet⟩
        have last : first = lines.length := by
          by_contra other
          cases (quiet (by omega)).1
        subst last
        rw [startAt_last, starts] at found
        rw [Option.some.inj found]
    | none =>
      -- Nothing starts here, so that what starts is on a line before.
      have earlier : first < lines.length + 1 → startAt (lines ++ [line]) first = some start →
          first < lines.length := by
        intro within found
        by_contra last
        obtain rfl : first = lines.length := by omega
        rw [startAt_last, starts] at found
        contradiction
      cases ends : endsSubroutine line with
      | true =>
        constructor
        · intro same
          cases same
        · rintro ⟨within, found, _, quiet⟩
          cases (quiet (earlier within found)).2
      | false =>
        refine ih.trans ?_
        constructor
        · rintro ⟨within, found, quiet⟩
          exact ⟨Nat.lt_succ_of_lt within, (startAt_concat _ within).trans found, quiet, fun _ => ⟨rfl, rfl⟩⟩
        · rintro ⟨within, found, quiet, _⟩
          have before := earlier within found
          exact ⟨before, (startAt_concat _ before).symm.trans found, quiet⟩

theorem delimits_concat {first last : Nat} (within : last < lines.length) :
    Delimits (lines ++ [line]) first last ↔ Delimits lines first last := by
  have quiet : QuietBetween (lines ++ [line]) first last ↔ QuietBetween lines first last :=
    quietBetween_concat line (Nat.le_of_lt within)
  constructor
  · rintro ⟨later, starts, ends, silent⟩
    rw [startAt_concat _ (by omega)] at starts
    rw [endsAt_concat _ within] at ends
    exact ⟨later, starts, ends, quiet.mp silent⟩
  · rintro ⟨later, starts, ends, silent⟩
    rw [← startAt_concat line (by omega)] at starts
    rw [← endsAt_concat line within] at ends
    exact ⟨later, starts, ends, quiet.mpr silent⟩

/-- A subroutine ends on the last line exactly if one waits for its end and the line is an end. -/
theorem delimits_last {first : Nat} :
    Delimits (lines ++ [line]) first lines.length ↔
      endsSubroutine line = true ∧ ∃ start, waitingAfter none 0 lines = some (start, first) := by
  constructor
  · rintro ⟨later, starts, ends, silent⟩
    rw [startAt_concat _ later] at starts
    rw [endsAt_last] at ends
    obtain ⟨start, found⟩ := Option.isSome_iff_exists.mp starts
    have quiet := (quietBetween_concat _ (Nat.le_refl _)).mp silent
    exact ⟨ends, start, waitingAfter_eq_some_iff.mpr ⟨later, found, quiet⟩⟩
  · rintro ⟨ends, start, waits⟩
    obtain ⟨later, found, silent⟩ := waitingAfter_eq_some_iff.mp waits
    have starts : (startAt (lines ++ [line]) first).isSome = true := by
      rw [startAt_concat _ later, found]
      rfl
    exact ⟨later, starts, (endsAt_last _ _).trans ends, (quietBetween_concat _ (Nat.le_refl _)).mpr silent⟩

/-- The last line ends the subroutine that waits, if it is an end, and no other. -/
theorem filter_delimits_last :
    (List.range lines.length).filter (fun first => Delimits (lines ++ [line]) first lines.length) =
      if endsSubroutine line then (waitingAfter none 0 lines).toList.map (·.2) else [] := by
  have here : ∀ first, decide (Delimits (lines ++ [line]) first lines.length) = true ↔
      endsSubroutine line = true ∧ ∃ start, waitingAfter none 0 lines = some (start, first) := by
    intro first
    rw [decide_eq_true_iff, delimits_last]
  by_cases found : ∃ start first, endsSubroutine line = true ∧ waitingAfter none 0 lines = some (start, first)
  · obtain ⟨start, first, ends, waits⟩ := found
    have within := (waitingAfter_eq_some_iff.mp waits).1
    rw [ends, waits]
    refine filter_range_eq_singleton within fun other _ => ?_
    rw [here, ends, waits]
    constructor
    · rintro ⟨_, start', same⟩
      exact (Prod.mk.inj (Option.some.inj same)).2.symm
    · rintro rfl
      exact ⟨rfl, start, rfl⟩
  · have none : (List.range lines.length).filter (fun first => Delimits (lines ++ [line]) first lines.length) =
        [] := by
      rw [List.filter_eq_nil_iff]
      intro first _ delimits
      obtain ⟨ends, start, waits⟩ := (here first).mp delimits
      exact found ⟨start, first, ends, waits⟩
    rw [none]
    cases ends : endsSubroutine line with
    | false => rfl
    | true =>
      cases waits : waitingAfter Option.none 0 lines with
      | none => rfl
      | some w => exact absurd ⟨w.1, w.2, ends, waits⟩ found

theorem subroutinePairs_concat :
    subroutinePairs (lines ++ [line]) =
      subroutinePairs lines ++
        if endsSubroutine line then (waitingAfter none 0 lines).toList.map fun w => (w.2, lines.length) else [] := by
  unfold subroutinePairs
  rw [List.length_append, List.length_singleton, List.range_succ, List.flatMap_append]
  congr 1
  · refine List.flatMap_congr fun last before => ?_
    have within := List.mem_range.mp before
    congr 1
    refine List.filter_congr fun first _ => ?_
    exact decide_eq_decide.mpr (delimits_concat within)
  · rw [List.flatMap_singleton, filter_delimits_last]
    split
    next => rw [List.map_map]; rfl
    next => rfl

theorem lt_of_endsAt {last : Nat} (ends : endsAt lines last = true) : last < lines.length := by
  by_contra beyond
  rw [endsAt, List.getElem?_eq_none (by omega)] at ends
  contradiction

theorem startAt_of_endsAt {number : Nat} (ends : endsAt lines number = true) : startAt lines number = none := by
  unfold endsAt at ends
  unfold startAt
  cases there : lines[number]? with
  | none => rfl
  | some line =>
    rw [there] at ends
    exact subroutineStartOn?_of_ends ends

theorem mem_subroutinePairs {pair : Nat × Nat} : pair ∈ subroutinePairs lines ↔ Delimits lines pair.1 pair.2 := by
  simp only [subroutinePairs, List.mem_flatMap, List.mem_map, List.mem_filter, List.mem_range, decide_eq_true_eq]
  constructor
  · rintro ⟨last, _, first, ⟨_, delimits⟩, rfl⟩
    exact delimits
  · intro delimits
    exact ⟨pair.2, lt_of_endsAt delimits.ends, pair.1, ⟨delimits.later, delimits⟩, rfl⟩

/-- Each subroutine starts behind the end of the one before. -/
theorem subroutinePairs_ordered (lines : List Text) :
    (subroutinePairs lines).Pairwise fun earlier later => earlier.2 < later.1 := by
  induction lines using List.reverseRecOn with
  | nil => exact List.Pairwise.nil
  | append_singleton lines line ih =>
    rw [subroutinePairs_concat]
    cases ends : endsSubroutine line with
    | false => simpa using ih
    | true =>
      cases waits : waitingAfter none 0 lines with
      | none => simpa using ih
      | some w =>
        obtain ⟨start, first⟩ := w
        obtain ⟨within, found, silent⟩ := waitingAfter_eq_some_iff.mp waits
        refine List.pairwise_append.mpr ⟨ih, List.pairwise_singleton _ _, ?_⟩
        intro pair hp later hl
        obtain rfl : later = (first, lines.length) := List.mem_singleton.mp hl
        have ends' := (mem_subroutinePairs.mp hp).ends
        have before := lt_of_endsAt ends'
        by_contra behind
        by_cases same : pair.2 = first
        · have unstarted := startAt_of_endsAt ends'
          rw [same, found] at unstarted
          contradiction
        · have quiet := (silent pair.2 before (by omega)).2
          rw [ends'] at quiet
          contradiction

theorem subroutineBetween_concat {pair : Nat × Nat} (first : pair.1 < lines.length) (last : pair.2 < lines.length) :
    subroutineBetween (lines ++ [line]) pair = subroutineBetween lines pair := by
  unfold subroutineBetween
  rw [startAt_concat _ first, List.getElem?_append_left last]

theorem subroutinesOn_concat :
    subroutinesOn (lines ++ [line]) =
      subroutinesOn lines ++
        if endsSubroutine line then
          (waitingAfter none 0 lines).toList.map fun w => w.1.symbol w.2 lines.length line
        else [] := by
  unfold subroutinesOn
  rw [subroutinePairs_concat, List.filterMap_append]
  congr 1
  · refine List.filterMap_congr fun pair hp => ?_
    obtain ⟨later, _, ends, _⟩ := mem_subroutinePairs.mp hp
    have last := lt_of_endsAt ends
    exact subroutineBetween_concat (by omega) last
  · cases endsSubroutine line with
    | false => rfl
    | true =>
      cases waits : waitingAfter none 0 lines with
      | none => rfl
      | some w =>
        obtain ⟨start, first⟩ := w
        obtain ⟨within, found, _⟩ := waitingAfter_eq_some_iff.mp waits
        have between : subroutineBetween (lines ++ [line]) (first, lines.length) =
            some (start.symbol first lines.length line) := by
          rw [subroutineBetween, startAt_concat _ within, found, List.getElem?_concat_length]
          rfl
        change List.filterMap _ [(first, lines.length)] = _
        rw [List.filterMap_cons, between]
        rfl

end Concat

/-- The start of a subroutine: blanks, the keyword in letters of any case, blanks, the name and nothing but blanks. -/
theorem subroutineStartOn?_parts {line : Text} {start : SubroutineStart}
    (starts : subroutineStartOn? line = some start) :
    ∃ indent spelled gap rest,
      FirstWord (asciiLower BlockKind.subroutine.opener) line indent spelled (gap ++ (start.name ++ rest)) ∧
        start.column = indent.length ∧ gap ≠ [] ∧ ∀ c ∈ gap ++ rest, isBlank c = true := by
  have nonempty := (BlockEvent.opening .subroutine).keyword_ne_nil
  have solid := (BlockEvent.opening .subroutine).keyword_solid
  cases part : namedPart? line with
  | none => simp [(subroutineStartOn?_of_no_name 0 (.inl part)).2] at starts
  | some named =>
    cases named with
    | nil => simp [(subroutineStartOn?_of_no_name 0 (.inr part)).2] at starts
    | cons c behind =>
      rw [subroutineStartOn?_of_namedPart part] at starts
      split at starts
      next alone =>
        obtain rfl := Option.some.inj starts
        obtain ⟨indent, spelled, gap, first, apart, blank, _⟩ := namedPart?_eq_some_iff.mp part
        have run : c :: behind = nameRun (c :: behind) ++ (c :: behind).drop (nameRun (c :: behind)).length :=
          (List.prefix_iff_eq_append.mp (List.takeWhile_prefix _)).symm
        rw [run] at first
        refine ⟨indent, spelled, gap, _, first, first.column_eq nonempty solid, apart, ?_⟩
        refine List.forall_mem_append.mpr ⟨blank, ?_⟩
        exact List.all_eq_true.mp (Bool.and_eq_true_iff.mp alone).2
      next => contradiction

/-- The symbol tells of the subroutine between two lines: it has the name of the start and goes from the keyword
there to the end of the last line. -/
def Declares (lines : List Text) (pair : Nat × Nat) (s : Symbol) : Prop :=
  ∃ opening closing start indent spelled behind,
    lines[pair.1]? = some opening ∧ subroutineStartOn? opening = some start ∧
      FirstWord (asciiLower BlockKind.subroutine.opener) opening indent spelled behind ∧
      lines[pair.2]? = some closing ∧ endsSubroutine closing = true ∧
      s.name = start.name ∧ s.kind = .subroutine ∧
      s.span = ⟨⟨pair.1, indent.length⟩, ⟨pair.2, closing.length⟩⟩ ∧ s.valueType = none

theorem declares_of_delimits {lines : List Text} {pair : Nat × Nat} (delimits : Delimits lines pair.1 pair.2) :
    ∃ s, subroutineBetween lines pair = some s ∧ Declares lines pair s := by
  obtain ⟨_, starts, ends, _⟩ := delimits
  obtain ⟨start, found⟩ := Option.isSome_iff_exists.mp starts
  obtain ⟨opening, there, opens⟩ := Option.bind_eq_some_iff.mp found
  have within := lt_of_endsAt ends
  have last : lines[pair.2]? = some lines[pair.2] := List.getElem?_eq_getElem within
  rw [endsAt, last] at ends
  obtain ⟨indent, spelled, gap, rest, first, column, _⟩ := subroutineStartOn?_parts opens
  refine ⟨start.symbol pair.1 pair.2 lines[pair.2], ?_, ?_⟩
  · rw [subroutineBetween, found, last]
    rfl
  · refine ⟨opening, _, start, indent, spelled, _, there, opens, first, last, ends, rfl, rfl, ?_, rfl⟩
    rw [← column]
    rfl

theorem forall₂_declares (lines : List Text) :
    List.Forall₂ (Declares lines) (subroutinePairs lines) (subroutinesOn lines) := by
  have all : ∀ pair ∈ subroutinePairs lines, Delimits lines pair.1 pair.2 := fun _ => mem_subroutinePairs.mp
  unfold subroutinesOn
  generalize subroutinePairs lines = pairs at all
  induction pairs with
  | nil => exact .nil
  | cons pair pairs ih =>
    obtain ⟨s, between, declares⟩ := declares_of_delimits (all pair List.mem_cons_self)
    rw [List.filterMap_cons, between]
    exact .cons declares (ih fun other ho => all other (List.mem_cons_of_mem pair ho))

end BasicWorkbench
