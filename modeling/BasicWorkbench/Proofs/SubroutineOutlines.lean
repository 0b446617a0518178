import BasicWorkbench.Proofs.BlockScans
import BasicWorkbench.Proofs.SubroutineLines

namespace BasicWorkbench

/-- A subroutine as the block check sees it: its opener and the line on which it stands, and the number and
the text of the line that closes it. -/
structure SubroutineBlock where
  opener : BlockOpener
  opening : Text
  last : Nat
  closing : Text
  deriving DecidableEq, Repr

def SubroutineBlock.name (b : SubroutineBlock) : Text := b.opener.start.name

/-- The subroutines of the lines from a number on, where `opened` is the opener that waits for its closer. There
are none to tell of unless openers and closers take turns and a closer comes last. -/
def pairedFrom (opened : Option (BlockOpener × Text)) (number : Nat) :
    List Text → Option (List SubroutineBlock)
  | [] => if opened.isNone then some [] else none
  | line :: lines =>
    if closesOn .subroutine line then
      match opened with
      | some (b, opening) => (pairedFrom none (number + 1) lines).map (⟨b, opening, number, line⟩ :: ·)
      | none => none
    else
      match openerOn? .subroutine number line, opened with
      | some b, none => pairedFrom (some (b, line)) (number + 1) lines
      | some _, some _ => none
      | none, _ => pairedFrom opened (number + 1) lines

/-- The subroutines of lines on which openers and closers take turns, from an opener to a closer. -/
def pairedSubroutines (lines : List Text) : Option (List SubroutineBlock) := pairedFrom none 0 lines

/-- The outline's records for the blocks: the opener that was started last, and the block that ends it. An
opener that does not stand alone is passed over, and so is such a closer. -/
def recorded (started : Option BlockOpener) : List SubroutineBlock → List (BlockOpener × SubroutineBlock)
  | [] => []
  | b :: blocks =>
    let started := if opensAlone b.opener b.opening then some b.opener else started
    if closesAlone b.closing then started.toList.map (·, b) ++ recorded none blocks
    else recorded started blocks

def addRecord (known : OrderedMap Symbol) (r : BlockOpener × SubroutineBlock) : OrderedMap Symbol :=
  known.insert (lower r.1.start.name) (r.1.start.symbol r.1.line r.2.last r.2.closing)

def SymbolTable.assign (table : SymbolTable) (number : Nat) (line : Text) : SymbolTable :=
  match assignmentOn? line with
  | some a => table.addVariable (a.symbol number)
  | none => table

theorem SymbolTable.assign_subroutines (table : SymbolTable) (number : Nat) (line : Text) :
    (table.assign number line).knownSubroutines = table.knownSubroutines := by
  unfold assign
  split <;> rfl

theorem collectFrom_cons (table : SymbolTable) (started : Option (SubroutineStart × Nat)) (number : Nat)
    (line : Text) (lines : List Text) :
    collectFrom table started number (line :: lines) =
      match subroutineStartOn? line, started with
      | some s, _ => collectFrom (table.assign number line) (some (s, number)) (number + 1) lines
      | none, some (s, first) =>
        if endsSubroutine line then
          collectFrom ((table.assign number line).addSubroutine (s.symbol first number line)) none
            (number + 1) lines
        else collectFrom (table.assign number line) started (number + 1) lines
      | none, none => collectFrom (table.assign number line) none (number + 1) lines := by
  conv => lhs; unfold collectFrom
  cases subroutineStartOn? line <;> cases started <;> rfl

def carried (opened : Option (BlockOpener × Text)) (started : Option BlockOpener) : Option BlockOpener :=
  match opened with
  | some (b, opening) => if opensAlone b opening then some b else started
  | none => started

/-- The outline adds the records of the blocks, one after the other. -/
theorem collectFrom_subroutines {lines : List Text} {opened : Option (BlockOpener × Text)} {number : Nat}
    {blocks : List SubroutineBlock} (paired : pairedFrom opened number lines = some blocks)
    (table : SymbolTable) (started : Option BlockOpener) :
    (collectFrom table ((carried opened started).map fun b => (b.start, b.line)) number
        lines).knownSubroutines =
      (recorded started blocks).foldl addRecord table.knownSubroutines := by
  -- On the lines; `opened` tells what the block check waits for, `started` what the outline had before that.
  induction lines generalizing opened number blocks table started with
  | nil =>
    cases opened with
    | some b => simp [pairedFrom] at paired
    | none =>
      obtain rfl : [] = blocks := by simpa [pairedFrom] using paired
      rfl
  | cons line lines ih =>
    have same := table.assign_subroutines number line
    rw [collectFrom_cons, subroutineStartOn?_eq number, endsSubroutine_eq]
    cases closes : closesOn .subroutine line with
    | true =>
      rw [openerOn?_of_closes closes]
      cases opened with
      | none => simp [pairedFrom, closes] at paired
      | some waiting =>
        obtain ⟨b, opening⟩ := waiting
        simp only [pairedFrom, closes, if_true] at paired
        obtain ⟨rest, later, rfl⟩ := Option.map_eq_some_iff.mp paired
        have started' : recorded started (⟨b, opening, number, line⟩ :: rest) =
            if closesAlone line then
              (carried (some (b, opening)) started).toList.map (·, ⟨b, opening, number, line⟩) ++
                recorded none rest
            else recorded (carried (some (b, opening)) started) rest := rfl
        rw [started']
        cases carried (some (b, opening)) started with
        | none =>
          have next := ih later (table.assign number line) none
          rw [same] at next
          cases closesAlone line <;> exact next
        | some o =>
          cases closesAlone line with
          | true =>
            have next := ih later ((table.assign number line).addSubroutine
              (o.start.symbol o.line number line)) none
            have added : ((table.assign number line).addSubroutine
                (o.start.symbol o.line number line)).knownSubroutines =
                addRecord table.knownSubroutines (o, ⟨b, opening, number, line⟩) := by
              rw [← same]
              rfl
            rw [added] at next
            exact next
          | false =>
            have next := ih later (table.assign number line) (some o)
            rw [same] at next
            exact next
    | false =>
      cases opens : openerOn? .subroutine number line with
      | none =>
        have later : pairedFrom opened (number + 1) lines = some blocks := by
          simpa [pairedFrom, closes, opens] using paired
        have next := ih later (table.assign number line) started
        rw [same] at next
        cases h : carried opened started with
        | none =>
          rw [h] at next
          exact next
        | some o =>
          rw [h] at next
          exact next
      | some b =>
        cases opened with
        | some waiting => simp [pairedFrom, closes, opens] at paired
        | none =>
          have later : pairedFrom (some (b, line)) (number + 1) lines = some blocks := by
            simpa [pairedFrom, closes, opens] using paired
          have next := ih later (table.assign number line) started
          have here : b.line = number := (openerOn?_eq_some opens).2.1
          rw [same, carried] at next
          rw [carried, Option.filter_some]
          cases alone : opensAlone b line with
          | true =>
            rw [alone, if_pos rfl, Option.map_some, here] at next
            exact next
          | false =>
            rw [alone, if_neg Bool.false_ne_true] at next
            cases started with
            | none => exact next
            | some o => exact next

end BasicWorkbench
