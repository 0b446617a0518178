import BasicWorkbench.Text

namespace BasicWorkbench

def consHead (c : Char) : List Text → List Text
  | [] => [[c]]
  | line :: lines => (c :: line) :: lines

/-- Lines as editors number them: a break is a carriage return and line feed, or either alone. -/
def splitBreaks : Text → List Text
  | [] => [[]]
  | '\r' :: '\n' :: s => [] :: splitBreaks s
  | c :: s => if c = '\r' || c = '\n' then [] :: splitBreaks s else consHead c (splitBreaks s)

def dropMark : Text → Text
  | [] => []
  | c :: s => if c = '\ufeff' then s else c :: s

def editorLines (s : Text) : List Text := splitBreaks (dropMark s)

def unifyBreaks : Text → Text
  | [] => []
  | '\r' :: '\n' :: s => '\n' :: unifyBreaks s
  | c :: s => (if c = '\r' then '\n' else c) :: unifyBreaks s

/-- Characters that end a line of printed output: besides line feed and carriage return the
vertical tab, form feed, the file, group and record separators, next line and the Unicode line
and paragraph separators. -/
def isSeparator (c : Char) : Bool :=
  let n := c.toNat
  (0x0a ≤ n && n ≤ 0x0d) || (0x1c ≤ n && n ≤ 0x1e) || n = 0x85 || n = 0x2028 || n = 0x2029

/-- The lines of printed output. A separator at the very end starts no further line. -/
def outputLines : Text → List Text
  | [] => []
  | '\r' :: '\n' :: s => [] :: outputLines s
  | c :: s => if isSeparator c then [] :: outputLines s else consHead c (outputLines s)

def outputLinesWithEnds : Text → List Text
  | [] => []
  | '\r' :: '\n' :: s => ['\r', '\n'] :: outputLinesWithEnds s
  | c :: s => if isSeparator c then [c] :: outputLinesWithEnds s else consHead c (outputLinesWithEnds s)

theorem splitBreaks_cons {c : Char} (inside : ¬(c = '\r' ∨ c = '\n')) (s : Text) :
    splitBreaks (c :: s) = consHead c (splitBreaks s) := by
  obtain ⟨carriage, feed⟩ := not_or.mp inside
  rw [splitBreaks]
  · simp [carriage, feed]
  · intro rest first
    exact absurd first carriage

theorem splitBreaks_ne_nil (s : Text) : splitBreaks s ≠ [] := by
  fun_cases splitBreaks s with
  | case1 => simp
  | case2 s => simp
  | case3 c s _ breaks => simp
  | case4 c s _ inside => cases splitBreaks s <;> simp [consHead]

theorem forall_mem_consHead {p : Char → Prop} {c : Char} {lines : List Text} (first : p c)
    (rest : ∀ line ∈ lines, ∀ d ∈ line, p d) : ∀ line ∈ consHead c lines, ∀ d ∈ line, p d := by
  cases lines with
  | nil => simpa [consHead] using first
  | cons head lines =>
    intro line hl d hd
    rcases List.mem_cons.mp hl with rfl | hl
    · rcases List.mem_cons.mp hd with rfl | hd
      · exact first
      · exact rest head List.mem_cons_self d hd
    · exact rest line (List.mem_cons_of_mem head hl) d hd

end BasicWorkbench
