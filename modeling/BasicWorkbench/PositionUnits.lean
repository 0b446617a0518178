import BasicWorkbench.Text

namespace BasicWorkbench

/-- The unit in which an editor counts the characters of a line: bytes, pairs of bytes or code points. -/
inductive PositionUnit where
  | utf8
  | utf16
  | utf32
  deriving DecidableEq, Repr

namespace PositionUnit

def name : PositionUnit → Text
  | .utf8 => "utf-8"
  | .utf16 => "utf-16"
  | .utf32 => "utf-32"

def ofName? (name : Text) : Option PositionUnit := [utf8, utf16, utf32].find? fun u => u.name = name

/-- The unit agreed on with an editor that names those it knows, the best ones first: the first unit that
is known here too, and UTF-16 where there is none. -/
def agreed (offered : List Text) : PositionUnit := (offered.findSome? ofName?).getD .utf16

def width (u : PositionUnit) (c : Char) : Nat :=
  match u with
  | .utf8 => c.utf8Size
  | .utf16 => if c.toNat < 0x10000 then 1 else 2
  | .utf32 => 1

def length (u : PositionUnit) : Text → Nat
  | [] => 0
  | c :: s => u.width c + u.length s

/-- The code points in front of a column counted in units; a column inside a character counts the whole
character, and one past the end counts all. -/
def column (u : PositionUnit) (units : Nat) : Text → Nat
  | [] => 0
  | c :: s => if units = 0 then 0 else 1 + u.column (units - u.width c) s

theorem width_pos (u : PositionUnit) (c : Char) : 0 < u.width c := by
  cases u with
  | utf8 => exact c.utf8Size_pos
  | utf16 => simp only [width]; split <;> decide
  | utf32 => exact Nat.one_pos

theorem column_length (u : PositionUnit) (k : Nat) (s : Text) (h : k ≤ s.length) :
    u.column (u.length (s.take k)) s = k := by
  induction s generalizing k with
  | nil => simp at h; simp [column, h]
  | cons c s ih =>
    cases k with
    | zero => simp [length, column]
    | succ k =>
      have hw := u.width_pos c
      have hk : k ≤ s.length := by simpa using h
      have := ih k hk
      simp only [List.take_succ_cons, length, column]
      rw [if_neg (by omega), Nat.add_sub_cancel_left, this]
      omega

end PositionUnit

end BasicWorkbench
