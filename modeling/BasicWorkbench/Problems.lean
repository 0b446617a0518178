import BasicWorkbench.Faults

namespace BasicWorkbench

/-- Where the compiler saw a problem, counted from one. A column is only known with its line. -/
structure Place where
  line : Int
  column : Option Int
  deriving DecidableEq, Repr

structure Problem where
  message : Text
  place : Option Place
  deriving DecidableEq, Repr

def Problem.line? (p : Problem) : Option Int := p.place.map (·.line)

def Problem.column? (p : Problem) : Option Int := p.place.bind (·.column)

theorem Problem.line_of_column (p : Problem) (h : p.column?.isSome = true) : p.line?.isSome = true := by
  obtain ⟨message, none | place⟩ := p
  · contradiction
  · rfl

def Problem.ofParts (message : Text) : Option Int → Option Int → Except Fault Problem
  | some line, column => .ok ⟨message, some ⟨line, column⟩⟩
  | none, none => .ok ⟨message, none⟩
  | none, some _ => .error .columnWithoutLine

def Problem.unplaced (message : Text) : Problem := ⟨message, none⟩

def Problem.text (p : Problem) : Text :=
  match p.place with
  | none => p.message
  | some ⟨line, none⟩ => intText line ++ ": " ++ p.message
  | some ⟨line, some column⟩ => intText line ++ ":" ++ intText column ++ ": " ++ p.message

def placeText (filename : Option Text) (line column : Int) : Text :=
  let numbers := intText line ++ ":" ++ intText column
  match filename with
  | some (c :: name) => c :: name ++ ":" ++ numbers
  | _ => numbers

theorem placeText_some (filename : Text) (line column : Int) :
    placeText (some filename) line column =
      (if filename = [] then [] else filename ++ [':']) ++ intText line ++ ":" ++ intText column := by
  cases filename with
  | nil => rfl
  | cons c name => simp [placeText]

def placedMessage (place : Option Text) (message : Text) : Text :=
  match place with
  | some place => "[" ++ place ++ "] " ++ message
  | none => message

end BasicWorkbench
