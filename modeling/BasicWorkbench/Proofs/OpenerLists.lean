import Mathlib.Data.List.DropRight
import BasicWorkbench.Blocks

namespace BasicWorkbench

def countOfKind (kind : BlockKind) (openers : List BlockOpener) : Nat := openers.countP (·.kind = kind)

/-- The openers without the last ones of every kind, as many as are asked for: one stays exactly if that many of
its kind come behind it. -/
def withoutLast (asked : BlockKind → Nat) : List BlockOpener → List BlockOpener
  | [] => []
  | b :: openers =>
    if asked b.kind ≤ countOfKind b.kind openers then b :: withoutLast asked openers
    else withoutLast asked openers

def ofKind (kind : BlockKind) (openers : List BlockOpener) : List BlockOpener := openers.filter (·.kind = kind)

def BlockOpener.shift (lines : Nat) (b : BlockOpener) : BlockOpener := { b with line := b.line + lines }

theorem countOfKind_cons (kind : BlockKind) (b : BlockOpener) (openers : List BlockOpener) :
    countOfKind kind (b :: openers) = countOfKind kind openers + if b.kind = kind then 1 else 0 := by
  simp [countOfKind, List.countP_cons]

theorem countOfKind_append (kind : BlockKind) (openers more : List BlockOpener) :
    countOfKind kind (openers ++ more) = countOfKind kind openers + countOfKind kind more :=
  List.countP_append

theorem length_ofKind (kind : BlockKind) (openers : List BlockOpener) :
    (ofKind kind openers).length = countOfKind kind openers :=
  List.countP_eq_length_filter.symm

theorem ofKind_append (kind : BlockKind) (openers more : List BlockOpener) :
    ofKind kind (openers ++ more) = ofKind kind openers ++ ofKind kind more :=
  List.filter_append ..

theorem withoutLast_eq_self {asked : BlockKind → Nat} {openers : List BlockOpener}
    (none : ∀ b ∈ openers, asked b.kind = 0) : withoutLast asked openers = openers := by
  induction openers with
  | nil => rfl
  | cons b openers ih =>
    have here := none b List.mem_cons_self
    rw [withoutLast, if_pos (by omega), ih fun c hc => none c (List.mem_cons_of_mem b hc)]

theorem withoutLast_sublist (asked : BlockKind → Nat) (openers : List BlockOpener) :
    (withoutLast asked openers).Sublist openers := by
  induction openers with
  | nil => exact List.Sublist.slnil
  | cons b openers ih =>
    rw [withoutLast]
    split
    next => exact ih.cons_cons b
    next => exact ih.cons b

/-- What comes behind makes up for as many of its kind. -/
theorem withoutLast_append (asked : BlockKind → Nat) (openers more : List BlockOpener) :
    withoutLast asked (openers ++ more) =
      withoutLast (fun kind => asked kind - countOfKind kind more) openers ++ withoutLast asked more := by
  induction openers with
  | nil => rfl
  | cons b openers ih =>
    rw [List.cons_append, withoutLast, withoutLast, ih, countOfKind_append]
    by_cases stays : asked b.kind ≤ countOfKind b.kind openers + countOfKind b.kind more
    · rw [if_pos stays, if_pos (by omega)]
      rfl
    · rw [if_neg stays, if_neg (by omega)]

theorem countOfKind_withoutLast (asked : BlockKind → Nat) (openers : List BlockOpener) (kind : BlockKind) :
    countOfKind kind (withoutLast asked openers) = countOfKind kind openers - asked kind := by
  induction openers with
  | nil => simp [withoutLast, countOfKind]
  | cons b openers ih =>
    rw [withoutLast, countOfKind_cons]
    by_cases same : b.kind = kind
    · subst same
      rw [if_pos rfl]
      split
      next stays =>
        rw [countOfKind_cons, ih, if_pos rfl]
        omega
      next goes =>
        rw [ih]
        omega
    · rw [if_neg same]
      split
      next =>
        rw [countOfKind_cons, ih, if_neg same]
        rfl
      next => exact ih

/-- To take some away and then more is to take all away at once. -/
theorem withoutLast_withoutLast (asked more : BlockKind → Nat) (openers : List BlockOpener) :
    withoutLast more (withoutLast asked openers) = withoutLast (fun kind => asked kind + more kind) openers := by
  induction openers with
  | nil => rfl
  | cons b openers ih =>
    by_cases stays : asked b.kind ≤ countOfKind b.kind openers
    · rw [withoutLast, if_pos stays, withoutLast, countOfKind_withoutLast, ih, withoutLast]
      by_cases stays' : asked b.kind + more b.kind ≤ countOfKind b.kind openers
      · rw [if_pos (by omega), if_pos stays']
      · rw [if_neg (by omega), if_neg stays']
    · rw [withoutLast, if_neg stays, ih, withoutLast, if_neg (by omega)]

/-- Of every kind the last ones are gone. -/
theorem ofKind_withoutLast (kind : BlockKind) (asked : BlockKind → Nat) (openers : List BlockOpener) :
    ofKind kind (withoutLast asked openers) = (ofKind kind openers).rdrop (asked kind) := by
  induction openers with
  | nil => simp [withoutLast, ofKind]
  | cons b openers ih =>
    unfold List.rdrop at ih ⊢
    rw [length_ofKind] at ih ⊢
    rw [withoutLast, countOfKind_cons]
    by_cases same : b.kind = kind
    · subst same
      have head : ∀ openers, ofKind b.kind (b :: openers) = b :: ofKind b.kind openers := fun _ =>
        List.filter_cons_of_pos (by simp)
      rw [if_pos rfl, head]
      by_cases stays : asked b.kind ≤ countOfKind b.kind openers
      · rw [if_pos stays, head, ih, Nat.sub_add_comm stays, List.take_succ_cons]
      · rw [if_neg stays, ih, Nat.sub_eq_zero_of_le (by omega), Nat.sub_eq_zero_of_le (by omega)]
        rfl
    · have skip : ∀ openers, ofKind kind (b :: openers) = ofKind kind openers := fun _ =>
        List.filter_cons_of_neg (by simpa using same)
      rw [if_neg same, skip, Nat.add_zero, ← ih]
      split
      next => exact skip _
      next => rfl

/-- To close the latest block of a kind is to take the last opener of the kind away. -/
theorem reverse_eraseP (kind : BlockKind) (unclosed : List BlockOpener) :
    (unclosed.eraseP (·.kind == kind)).reverse =
      withoutLast (fun k => if k = kind then 1 else 0) unclosed.reverse := by
  induction unclosed with
  | nil => rfl
  | cons b unclosed ih =>
    rw [List.reverse_cons, withoutLast_append]
    by_cases same : b.kind = kind
    · subst same
      rw [List.eraseP_cons_of_pos (by simp), withoutLast_eq_self]
      · simp [withoutLast, countOfKind]
      · intro c _
        by_cases other : c.kind = b.kind
        · simp [countOfKind, other]
        · simp [other]
    · rw [List.eraseP_cons_of_neg (by simpa using same), List.reverse_cons, ih]
      congr 1
      · refine congrArg (withoutLast · _) (funext fun k => ?_)
        by_cases other : k = kind
        · subst other
          simp [countOfKind, same]
        · simp [other]
      · simp [withoutLast, same]

theorem countOfKind_map_shift (kind : BlockKind) (lines : Nat) (openers : List BlockOpener) :
    countOfKind kind (openers.map (·.shift lines)) = countOfKind kind openers := by
  rw [countOfKind, List.countP_map]
  rfl

theorem withoutLast_map_shift (asked : BlockKind → Nat) (lines : Nat) (openers : List BlockOpener) :
    withoutLast asked (openers.map (·.shift lines)) = (withoutLast asked openers).map (·.shift lines) := by
  induction openers with
  | nil => rfl
  | cons b openers ih =>
    have kind : (b.shift lines).kind = b.kind := rfl
    rw [List.map_cons, withoutLast, kind, countOfKind_map_shift, ih, withoutLast]
    split
    next => rfl
    next => rfl

end BasicWorkbench
