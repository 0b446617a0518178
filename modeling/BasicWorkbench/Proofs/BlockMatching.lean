import Mathlib.Data.List.Induction
import BasicWorkbench.Proofs.BlockEvents
import BasicWorkbench.Proofs.OpenerLists

namespace BasicWorkbench

def BlockEvent.count (event : BlockEvent) (lines : List Text) : Nat := lines.countP fun line => event.IsOn line

/-- The closers of a kind that find no open block of the kind on the lines in front of them. -/
def strayClosers (kind : BlockKind) (lines : List Text) : Nat :=
  (List.range lines.length).countP fun number =>
    (lines[number]?.any fun line => (BlockEvent.closing kind).IsOn line) &&
      countOfKind kind (unclosedBlocks (lines.take number)) == 0

def openersOn (number : Nat) (line : Text) : List BlockOpener := BlockKind.all.filterMap (openerOn? · number line)

def closersOn (line : Text) (kind : BlockKind) : Nat := if (BlockEvent.closing kind).IsOn line then 1 else 0

section Lines

variable {number : Nat} {line : Text}

theorem openerOn?_eq_none_iff {kind : BlockKind} :
    openerOn? kind number line = none ↔ ¬(BlockEvent.opening kind).IsOn line := by
  rw [← openerOn?_isSome_iff number, Bool.not_eq_true, Option.isSome_eq_false_iff, Option.isNone_iff_eq_none]

/-- One line opens blocks of one kind only. -/
theorem openerOn?_of_other_kind {kind other : BlockKind} {b : BlockOpener}
    (found : openerOn? kind number line = some b) (differs : other ≠ kind) :
    openerOn? other number line = none := by
  have opens : (BlockEvent.opening kind).IsOn line := (openerOn?_isSome_iff number).mp (Option.isSome_of_mem found)
  rw [openerOn?_eq_none_iff]
  intro there
  exact differs (BlockEvent.opening.inj (there.unique opens))

theorem openersOn_of_opening {kind : BlockKind} {b : BlockOpener} (found : openerOn? kind number line = some b) :
    openersOn number line = [b] := by
  have others : ∀ other, other ≠ kind → openerOn? other number line = none := fun _ =>
    openerOn?_of_other_kind found
  cases kind <;> simp [openersOn, BlockKind.all, found, others]

theorem openersOn_of_none (none : ∀ kind, openerOn? kind number line = none) : openersOn number line = [] := by
  rw [openersOn, List.filterMap_eq_nil_iff]
  exact fun kind _ => none kind

theorem mem_openersOn {b : BlockOpener} : b ∈ openersOn number line ↔ b.line = number ∧ b.IsOn line := by
  rw [openersOn, List.mem_filterMap]
  constructor
  · rintro ⟨kind, _, found⟩
    exact (openerOn?_eq_some_iff.mp found).2
  · rintro ⟨place, here⟩
    refine ⟨b.kind, ?_, openerOn?_eq_some_iff.mpr ⟨rfl, place, here⟩⟩
    cases b.kind <;> decide

theorem ofKind_openersOn (kind : BlockKind) :
    ofKind kind (openersOn number line) = (openerOn? kind number line).toList := by
  cases found : openerOn? kind number line with
  | none =>
    rw [ofKind, Option.toList_none, List.filter_eq_nil_iff]
    intro b hb same
    obtain ⟨place, here⟩ := mem_openersOn.mp hb
    have there := openerOn?_eq_some_iff.mpr ⟨of_decide_eq_true same, place, here⟩
    rw [found] at there
    contradiction
  | some b =>
    rw [openersOn_of_opening found, ofKind, List.filter_cons_of_pos (by simp [(openerOn?_eq_some found).1])]
    rfl

theorem countOfKind_openersOn (kind : BlockKind) :
    countOfKind kind (openersOn number line) = if (BlockEvent.opening kind).IsOn line then 1 else 0 := by
  rw [← length_ofKind, ofKind_openersOn]
  cases found : openerOn? kind number line with
  | none => exact (if_neg (openerOn?_eq_none_iff.mp found)).symm
  | some b =>
    have opens : (BlockEvent.opening kind).IsOn line := (openerOn?_isSome_iff number).mp (Option.isSome_of_mem found)
    exact (if_pos opens).symm

/-- A line closes the latest block of its kind, or puts an opener behind all others. -/
theorem stepLine_eq (number : Nat) (line : Text) (unclosed : List BlockOpener) :
    (stepLine number line unclosed).reverse =
      withoutLast (closersOn line) unclosed.reverse ++ openersOn number line := by
  by_cases closes : ∃ kind, (BlockEvent.closing kind).IsOn line
  · obtain ⟨kind, closes⟩ := closes
    have closed : ∀ other, closesOn other line = decide (other = kind) := by
      intro other
      rw [Bool.eq_iff_iff, closesOn_iff, decide_eq_true_iff]
      constructor
      · intro there
        exact BlockEvent.closing.inj (there.unique closes)
      · rintro rfl
        exact closes
    have unopened : ∀ other, openerOn? other number line = none := by
      intro other
      rw [openerOn?_eq_none_iff]
      intro there
      cases there.unique closes
    have counts : closersOn line = fun other => if other = kind then 1 else 0 := by
      funext other
      simp only [closersOn, ← closesOn_iff, closed, decide_eq_true_eq]
    have step : stepLine number line unclosed = unclosed.eraseP (·.kind == kind) := by
      cases kind <;> simp [stepLine, BlockKind.all, stepKind, closed, unopened]
    rw [step, reverse_eraseP, counts, openersOn_of_none unopened, List.append_nil]
  · have unclosing : ∀ kind, closesOn kind line = false := by
      intro kind
      rw [← Bool.not_eq_true, closesOn_iff]
      exact fun there => closes ⟨kind, there⟩
    have kept : withoutLast (closersOn line) unclosed.reverse = unclosed.reverse := by
      refine withoutLast_eq_self fun b _ => if_neg ?_
      exact fun there => closes ⟨b.kind, there⟩
    rw [kept]
    by_cases opens : ∃ kind b, openerOn? kind number line = some b
    · obtain ⟨kind, b, found⟩ := opens
      have others : ∀ other, other ≠ kind → openerOn? other number line = none := fun _ =>
        openerOn?_of_other_kind found
      have step : stepLine number line unclosed = b :: unclosed := by
        cases kind <;> simp [stepLine, BlockKind.all, stepKind, unclosing, found, others]
      rw [step, openersOn_of_opening found, List.reverse_cons]
    · have none : ∀ kind, openerOn? kind number line = none := by
        intro kind
        rw [Option.eq_none_iff_forall_ne_some]
        exact fun b found => opens ⟨kind, b, found⟩
      have step : stepLine number line unclosed = unclosed := by
        simp [stepLine, BlockKind.all, stepKind, unclosing, none]
      rw [step, openersOn_of_none none, List.append_nil]

end Lines

theorem unclosedFrom_append (number : Nat) (unclosed : List BlockOpener) (lines more : List Text) :
    unclosedFrom number unclosed (lines ++ more) =
      unclosedFrom (number + lines.length) (unclosedFrom number unclosed lines).reverse more := by
  induction lines generalizing number unclosed with
  | nil =>
    rw [unclosedFrom, List.reverse_reverse]
    rfl
  | cons line lines ih =>
    have place : number + 1 + lines.length = number + (line :: lines).length := by
      rw [List.length_cons]
      omega
    rw [List.cons_append, unclosedFrom, ih, unclosedFrom, place]

/-- One more line closes at most one of the blocks that were open, and opens at most one. -/
theorem unclosedBlocks_concat (lines : List Text) (line : Text) :
    unclosedBlocks (lines ++ [line]) =
      withoutLast (closersOn line) (unclosedBlocks lines) ++ openersOn lines.length line := by
  unfold unclosedBlocks
  rw [unclosedFrom_append, unclosedFrom, unclosedFrom, stepLine_eq, List.reverse_reverse, Nat.zero_add]

theorem BlockOpener.IsOn.shift {line : Text} {b : BlockOpener} (here : b.IsOn line) (lines : Nat) :
    (b.shift lines).IsOn line := by
  cases here with
  | keyword _ other first ends => exact .keyword _ other first ends
  | subroutine _ first apart blank named => exact .subroutine _ first apart blank named

theorem openersOn_shift (number lines : Nat) (line : Text) :
    openersOn (number + lines) line = (openersOn number line).map (·.shift lines) := by
  rw [openersOn, openersOn, List.map_filterMap]
  refine List.filterMap_congr fun kind _ => ?_
  cases found : openerOn? kind number line with
  | none => exact openerOn?_eq_none_iff.mpr (openerOn?_eq_none_iff.mp found)
  | some b =>
    obtain ⟨same, place, here⟩ := openerOn?_eq_some_iff.mp found
    have moved : (b.shift lines).line = number + lines := congrArg (· + lines) place
    exact openerOn?_eq_some_iff.mpr ⟨same, moved, here.shift lines⟩

theorem strayClosers_concat (kind : BlockKind) (lines : List Text) (line : Text) :
    strayClosers kind (lines ++ [line]) =
      strayClosers kind lines + (closersOn line kind - countOfKind kind (unclosedBlocks lines)) := by
  unfold strayClosers
  rw [List.length_append, List.length_singleton, List.range_succ, List.countP_append]
  congr 1
  · refine List.countP_congr fun number before => ?_
    have within : number < lines.length := List.mem_range.mp before
    rw [List.getElem?_append_left within, List.take_append_of_le_length (Nat.le_of_lt within)]
  · rw [List.countP_singleton, List.getElem?_concat_length, List.take_left, closersOn]
    by_cases closes : (BlockEvent.closing kind).IsOn line
    · by_cases open' : countOfKind kind (unclosedBlocks lines) = 0
      · simp [closes, open']
      · simp [closes, open']
        omega
    · simp [closes]

/-- The blocks that stay open on lines and more lines. -/
theorem unclosedBlocks_append (lines more : List Text) :
    unclosedBlocks (lines ++ more) =
      withoutLast (strayClosers · more) (unclosedBlocks lines) ++
        (unclosedBlocks more).map (·.shift lines.length) := by
  induction more using List.reverseRecOn with
  | nil =>
    rw [withoutLast_eq_self fun _ _ => rfl]
    simp [unclosedBlocks, unclosedFrom]
  | append_singleton more line ih =>
    rw [← List.append_assoc, unclosedBlocks_concat, ih, withoutLast_append, withoutLast_withoutLast,
      withoutLast_map_shift, List.length_append, Nat.add_comm, openersOn_shift, List.append_assoc, ← List.map_append,
      ← unclosedBlocks_concat]
    congr 1
    refine congrArg (withoutLast · _) (funext fun kind => ?_)
    rw [strayClosers_concat, countOfKind_map_shift]

theorem BlockEvent.count_concat (event : BlockEvent) (lines : List Text) (line : Text) :
    event.count (lines ++ [line]) = event.count lines + if event.IsOn line then 1 else 0 := by
  rw [count, List.countP_append, List.countP_singleton]
  simp [count]

/-- What is open and what was closed was opened, or it was closed with nothing to close. -/
theorem countOfKind_unclosedBlocks (kind : BlockKind) (lines : List Text) :
    countOfKind kind (unclosedBlocks lines) + (BlockEvent.closing kind).count lines =
      (BlockEvent.opening kind).count lines + strayClosers kind lines := by
  induction lines using List.reverseRecOn with
  | nil => rfl
  | append_singleton lines line ih =>
    rw [unclosedBlocks_concat, countOfKind_append, countOfKind_withoutLast, countOfKind_openersOn,
      BlockEvent.count_concat, BlockEvent.count_concat, strayClosers_concat, closersOn]
    omega

/-- No closer of a kind is astray exactly if no start of the lines holds more closers than openers. -/
theorem strayClosers_eq_zero_iff {kind : BlockKind} {lines : List Text} :
    strayClosers kind lines = 0 ↔
      ∀ n, (BlockEvent.closing kind).count (lines.take n) ≤ (BlockEvent.opening kind).count (lines.take n) := by
  induction lines using List.reverseRecOn with
  | nil => simp [strayClosers, BlockEvent.count]
  | append_singleton lines line ih =>
    have balance := countOfKind_unclosedBlocks kind lines
    rw [strayClosers_concat, closersOn, Nat.add_eq_zero_iff, ih]
    constructor
    · rintro ⟨before, here⟩ n
      by_cases within : n ≤ lines.length
      · rw [List.take_append_of_le_length within]
        exact before n
      · have whole : (lines ++ [line]).take n = lines ++ [line] := by
          refine List.take_of_length_le ?_
          rw [List.length_append, List.length_singleton]
          omega
        have none := ih.mpr before
        rw [whole, BlockEvent.count_concat, BlockEvent.count_concat]
        omega
    · intro all
      have before : ∀ n, (BlockEvent.closing kind).count (lines.take n) ≤
          (BlockEvent.opening kind).count (lines.take n) := by
        intro n
        have start := all (min n lines.length)
        rwa [List.take_append_of_le_length (Nat.min_le_right _ _), ← List.take_eq_take_min] at start
      refine ⟨before, ?_⟩
      have none := ih.mpr before
      have last := all (lines ++ [line]).length
      rw [List.take_length, BlockEvent.count_concat, BlockEvent.count_concat] at last
      by_cases closes : (BlockEvent.closing kind).IsOn line
      · have unopened : ¬(BlockEvent.opening kind).IsOn line := fun opens => by cases opens.unique closes
        rw [if_pos closes, if_neg unopened] at last
        rw [if_pos closes]
        omega
      · rw [if_neg closes]
        omega

def linesBehind (lines : List Text) (first last : Nat) : List Text := (lines.take (last + 1)).drop (first + 1)

theorem openersOn_cases (number : Nat) (line : Text) :
    openersOn number line = [] ∨ ∃ b, openersOn number line = [b] := by
  by_cases opens : ∃ kind b, openerOn? kind number line = some b
  · obtain ⟨kind, b, found⟩ := opens
    exact .inr ⟨b, openersOn_of_opening found⟩
  · refine .inl (openersOn_of_none fun kind => ?_)
    rw [Option.eq_none_iff_forall_ne_some]
    exact fun b found => opens ⟨kind, b, found⟩

theorem line_lt_of_mem_unclosedBlocks {lines : List Text} {b : BlockOpener} (unclosed : b ∈ unclosedBlocks lines) :
    b.line < lines.length := by
  obtain ⟨line, there, _⟩ := mem_unclosedBlocks unclosed
  exact (List.getElem?_eq_some_iff.mp there).1

/-- The blocks that stay open come one behind the other. -/
theorem unclosedBlocks_ordered (lines : List Text) : (unclosedBlocks lines).Pairwise (·.line < ·.line) := by
  induction lines using List.reverseRecOn with
  | nil => exact List.Pairwise.nil
  | append_singleton lines line ih =>
    rw [unclosedBlocks_concat]
    have kept := withoutLast_sublist (closersOn line) (unclosedBlocks lines)
    refine List.pairwise_append.mpr ⟨ih.sublist kept, ?_, ?_⟩
    · rcases openersOn_cases lines.length line with none | ⟨b, one⟩
      · rw [none]
        exact List.Pairwise.nil
      · rw [one]
        exact List.pairwise_singleton _ _
    · intro b hb c hc
      rw [(mem_openersOn.mp hc).1]
      exact line_lt_of_mem_unclosedBlocks (kept.subset hb)

theorem mem_withoutLast_openersOn {asked : BlockKind → Nat} {number : Nat} {line : Text} {b : BlockOpener} :
    b ∈ withoutLast asked (openersOn number line) ↔ b ∈ openersOn number line ∧ asked b.kind = 0 := by
  rcases openersOn_cases number line with none | ⟨c, one⟩
  · rw [none]
    simp [withoutLast]
  · rw [one]
    by_cases stays : asked c.kind = 0
    · rw [withoutLast_eq_self (by simpa using stays), List.mem_singleton]
      constructor
      · rintro rfl
        exact ⟨rfl, stays⟩
      · exact fun both => both.1
    · have gone : withoutLast asked [c] = [] := if_neg (by simpa [countOfKind] using stays)
      rw [gone, List.mem_singleton]
      simp only [List.not_mem_nil, false_iff]
      rintro ⟨rfl, none⟩
      exact stays none

theorem cut_at_line {lines : List Text} {number : Nat} {line : Text} (there : lines[number]? = some line) :
    lines = lines.take number ++ [line] ++ lines.drop (number + 1) := by
  obtain ⟨within, same⟩ := List.getElem?_eq_some_iff.mp there
  have behind : lines.drop number = line :: lines.drop (number + 1) := by
    rw [List.drop_eq_getElem_cons within, same]
  rw [List.append_assoc, List.singleton_append, ← behind, List.take_append_drop]

/-- An opener stays open exactly if no closer of its kind is astray on the lines behind it. -/
theorem mem_unclosedBlocks_iff {lines : List Text} {b : BlockOpener} :
    b ∈ unclosedBlocks lines ↔
      ∃ line, lines[b.line]? = some line ∧ b.IsOn line ∧ strayClosers b.kind (lines.drop (b.line + 1)) = 0 := by
  have cut : ∀ line, lines[b.line]? = some line →
      (b ∈ unclosedBlocks lines ↔
        b ∈ withoutLast (strayClosers · (lines.drop (b.line + 1))) (openersOn b.line line)) := by
    intro line there
    have within : b.line < lines.length := (List.getElem?_eq_some_iff.mp there).1
    have length : (lines.take b.line).length = b.line := List.length_take_of_le (Nat.le_of_lt within)
    have split' : unclosedBlocks lines = _ := congrArg unclosedBlocks (cut_at_line there)
    rw [unclosedBlocks_append, unclosedBlocks_concat, withoutLast_append, List.append_assoc, length] at split'
    rw [split', List.mem_append, List.mem_append]
    constructor
    · rintro (before | here | behind)
      · have earlier := (withoutLast_sublist _ _).subset ((withoutLast_sublist _ _).subset before)
        have bound := line_lt_of_mem_unclosedBlocks earlier
        omega
      · exact here
      · obtain ⟨c, _, moved⟩ := List.mem_map.mp behind
        have place : c.line + (lines.take b.line ++ [line]).length = b.line := congrArg BlockOpener.line moved
        rw [List.length_append, length, List.length_singleton] at place
        omega
    · exact fun here => .inr (.inl here)
  constructor
  · intro unclosed
    obtain ⟨line, there, _⟩ := mem_unclosedBlocks unclosed
    obtain ⟨here, none⟩ := mem_withoutLast_openersOn.mp ((cut line there).mp unclosed)
    exact ⟨line, there, (mem_openersOn.mp here).2, none⟩
  · rintro ⟨line, there, here, none⟩
    exact (cut line there).mpr (mem_withoutLast_openersOn.mpr ⟨mem_openersOn.mpr ⟨rfl, here⟩, none⟩)

theorem strayClosers_behind_eq_zero_iff {kind : BlockKind} {lines : List Text} {first : Nat} :
    strayClosers kind (lines.drop (first + 1)) = 0 ↔
      ¬∃ last, first < last ∧
        (BlockEvent.opening kind).count (linesBehind lines first last) <
          (BlockEvent.closing kind).count (linesBehind lines first last) := by
  have part : ∀ last, linesBehind lines first last = (lines.drop (first + 1)).take (last - first) := by
    intro last
    rw [linesBehind, List.drop_take, Nat.add_sub_add_right]
  simp only [part]
  rw [strayClosers_eq_zero_iff]
  constructor
  · rintro balanced ⟨last, _, more⟩
    have bound := balanced (last - first)
    omega
  · intro none n
    by_contra more
    cases n with
    | zero => exact more (Nat.le_refl 0)
    | succ n =>
      refine none ⟨first + (n + 1), by omega, ?_⟩
      rw [Nat.add_sub_cancel_left]
      omega

/-- Two lines do the same to blocks of a kind. -/
structure SameEvents (kind : BlockKind) (line line' : Text) : Prop where
  closing : (BlockEvent.closing kind).IsOn line ↔ (BlockEvent.closing kind).IsOn line'
  opening : ∀ b : BlockOpener, b.kind = kind → (b.IsOn line ↔ b.IsOn line')

/-- What happens to blocks of a kind hangs on the openers and closers of the kind alone. -/
theorem ofKind_unclosedFrom {kind : BlockKind} {lines lines' : List Text}
    (same : List.Forall₂ (SameEvents kind) lines lines') (number : Nat) {unclosed unclosed' : List BlockOpener}
    (before : ofKind kind unclosed.reverse = ofKind kind unclosed'.reverse) :
    ofKind kind (unclosedFrom number unclosed lines) = ofKind kind (unclosedFrom number unclosed' lines') := by
  induction same generalizing number unclosed unclosed' with
  | nil => exact before
  | @cons line line' lines lines' here later ih =>
    refine ih (number + 1) ?_
    have opened : openerOn? kind number line = openerOn? kind number line' := by
      refine Option.ext fun b => ?_
      rw [openerOn?_eq_some_iff, openerOn?_eq_some_iff]
      exact and_congr_right fun kind => and_congr_right fun _ => here.opening b kind
    have closed : closersOn line kind = closersOn line' kind := if_congr here.closing rfl rfl
    rw [stepLine_eq, stepLine_eq, ofKind_append, ofKind_append, ofKind_withoutLast, ofKind_withoutLast,
      ofKind_openersOn, ofKind_openersOn, before, opened, closed]

theorem unclosedBlocks_concat_of_quiet {lines : List Text} {line : Text}
    (unopened : ∀ kind, ¬(BlockEvent.opening kind).IsOn line)
    (stray : ∀ b ∈ unclosedBlocks lines, ¬(BlockEvent.closing b.kind).IsOn line) :
    unclosedBlocks (lines ++ [line]) = unclosedBlocks lines := by
  rw [unclosedBlocks_concat, withoutLast_eq_self fun b hb => if_neg (stray b hb),
    openersOn_of_none fun kind => openerOn?_eq_none_iff.mpr (unopened kind), List.append_nil]

theorem not_isOn_nil (event : BlockEvent) : ¬event.IsOn [] := by
  rintro ⟨indent, spelled, rest, first, _⟩
  obtain ⟨_, none⟩ := List.append_eq_nil_iff.mp first.parts.symm
  obtain ⟨rfl, _⟩ := List.append_eq_nil_iff.mp none
  exact event.keyword_ne_nil first.spelling.symm

/-- A closer with nothing to close does as much as an empty line. -/
theorem unclosedBlocks_of_stray {lines : List Text} {number : Nat} {line : Text} {kind : BlockKind}
    (there : lines[number]? = some line) (closes : (BlockEvent.closing kind).IsOn line)
    (stray : ofKind kind (unclosedBlocks (lines.take number)) = []) :
    unclosedBlocks (lines.set number []) = unclosedBlocks lines := by
  have within : number < lines.length := (List.getElem?_eq_some_iff.mp there).1
  have changed : lines.set number [] = lines.take number ++ [[]] ++ lines.drop (number + 1) := by
    rw [List.set_eq_take_append_cons_drop, if_pos within, List.append_assoc]
    rfl
  have empty : unclosedBlocks (lines.take number ++ [[]]) = unclosedBlocks (lines.take number) :=
    unclosedBlocks_concat_of_quiet (fun kind => not_isOn_nil (.opening kind)) fun b _ => not_isOn_nil (.closing b.kind)
  have closed : unclosedBlocks (lines.take number ++ [line]) = unclosedBlocks (lines.take number) := by
    refine unclosedBlocks_concat_of_quiet (fun other opens => ?_) fun b hb other => ?_
    · cases opens.unique closes
    · have same : b.kind = kind := BlockEvent.closing.inj (other.unique closes)
      have kept : b ∈ ofKind kind (unclosedBlocks (lines.take number)) :=
        List.mem_filter.mpr ⟨hb, decide_eq_true same⟩
      rw [stray] at kept
      exact List.not_mem_nil kept
  have whole : unclosedBlocks lines = _ := congrArg unclosedBlocks (cut_at_line there)
  rw [whole, changed, unclosedBlocks_append, unclosedBlocks_append (_ ++ [line]), empty, closed, List.length_append,
    List.length_append]
  rfl

/-- What stays open is told by counting. The blocks that no line closes come one behind the other, and they are
those openers behind which, up to no line, there are more closers of their kind than openers. A line opens a block
of a kind where its first word is the keyword, it tells one block only, and it carries one event at most; what
happens to a kind hangs on the events of this kind alone, and a closer with nothing to close does nothing. -/
theorem unclosed_blocks_exact (lines : List Text) :
    (unclosedBlocks lines).Pairwise (·.line < ·.line) ∧
      (∀ b, b ∈ unclosedBlocks lines ↔
        ∃ line, lines[b.line]? = some line ∧ b.IsOn line ∧
          ¬∃ last, b.line < last ∧
            (BlockEvent.opening b.kind).count (linesBehind lines b.line last) <
              (BlockEvent.closing b.kind).count (linesBehind lines b.line last)) ∧
      (∀ kind line, (BlockEvent.opening kind).IsOn line ↔ ∃ b : BlockOpener, b.kind = kind ∧ b.IsOn line) ∧
      (∀ line (b c : BlockOpener), b.IsOn line → c.IsOn line → b.line = c.line → b = c) ∧
      (∀ line (event other : BlockEvent), event.IsOn line → other.IsOn line → event = other) ∧
      (∀ kind lines', List.Forall₂ (SameEvents kind) lines lines' →
        ofKind kind (unclosedBlocks lines) = ofKind kind (unclosedBlocks lines')) ∧
      ∀ kind number line, lines[number]? = some line → (BlockEvent.closing kind).IsOn line →
        ofKind kind (unclosedBlocks (lines.take number)) = [] →
          unclosedBlocks (lines.set number []) = unclosedBlocks lines := by
  refine ⟨unclosedBlocks_ordered lines, ?_, ?_, ?_, ?_, ?_, ?_⟩
  · intro b
    rw [mem_unclosedBlocks_iff]
    simp only [strayClosers_behind_eq_zero_iff]
  · intro kind line
    exact BlockEvent.opening_iff
  · intro line b c
    exact BlockOpener.IsOn.unique
  · intro line event other
    exact BlockEvent.IsOn.unique
  · intro kind lines' same
    exact ofKind_unclosedFrom same 0 rfl
  · intro kind number line
    exact unclosedBlocks_of_stray

/-- The blocks that stay open on lines and more lines are found from both parts. Of the first part, for each kind,
as many of the last ones go as closers are astray in the second; what stays open in the second part is moved down. -/
theorem unclosed_blocks_compose (lines more : List Text) :
    let kept := withoutLast (strayClosers · more) (unclosedBlocks lines)
    unclosedBlocks (lines ++ more) = kept ++ (unclosedBlocks more).map (·.shift lines.length) ∧
      kept.Sublist (unclosedBlocks lines) ∧
      ∀ kind, ofKind kind kept =
        (ofKind kind (unclosedBlocks lines)).rdrop
          (min (strayClosers kind more) (countOfKind kind (unclosedBlocks lines))) := by
  intro kept
  refine ⟨unclosedBlocks_append lines more, withoutLast_sublist _ _, fun kind => ?_⟩
  have all : (ofKind kind (unclosedBlocks lines)).length = countOfKind kind (unclosedBlocks lines) :=
    length_ofKind kind _
  have same : countOfKind kind (unclosedBlocks lines) -
      min (strayClosers kind more) (countOfKind kind (unclosedBlocks lines)) =
        countOfKind kind (unclosedBlocks lines) - strayClosers kind more := by
    omega
  rw [ofKind_withoutLast, List.rdrop, List.rdrop, all, same]

end BasicWorkbench
