import BasicWorkbench.CombiningClasses
import BasicWorkbench.Identifiers
import BasicWorkbench.Json
import BasicWorkbench.LetterForms
import BasicWorkbench.SpelledForms
import BasicWorkbench.Text

namespace BasicWorkbench

def formIn? {α : Type} (rows : List (Nat × List α)) (n : Nat) : Option α :=
  rows.findSome? fun (first, forms) => if first ≤ n then forms[n - first]? else none

def plainLetter? (n : Nat) : Option Nat :=
  ((alignedForms.find? fun r => r.1 ≤ n && n ≤ r.2.1).map fun r => r.2.2 + (n - r.1)).or
    (formIn? singleForms n)

/-- The letters of a Korean syllable: a first consonant, a vowel and perhaps a last consonant. -/
def syllableLetters (n : Nat) : List Nat :=
  let place := n - 0xac00
  let last := place % 28
  [0x1100 + place / 588, 0x1161 + place % 588 / 28] ++ if last = 0 then [] else [0x11a7 + last]

def plainSpelling (n : Nat) : List Nat :=
  if n < 0x80 then [n]
  else if 0xac00 ≤ n && n ≤ 0xd7a3 then syllableLetters n
  else
    match plainLetter? n with
    | some plain => [plain]
    | none => (formIn? spelledForms n).getD [n]

/-- Puts a mark in front of arranged characters, behind the marks with smaller classes. -/
def insertMark (n : Nat) : List Nat → List Nat
  | [] => [n]
  | m :: rest =>
    if 0 < combiningClass m && combiningClass m < combiningClass n then m :: insertMark n rest
    else n :: m :: rest

/-- Arranges the marks behind each letter by their classes; marks of one class keep their order. -/
def arrangeMarks (ns : List Nat) : List Nat := ns.foldr insertMark []

/-- The plain characters that an identifier stands for. Two identifiers are one name if they stand for
the same ones. -/
def spelling (s : Text) : List Nat := arrangeMarks (s.flatMap fun c => plainSpelling c.toNat)

def allDiffer : List (List Nat) → Bool
  | [] => true
  | x :: xs => !xs.contains x && allDiffer xs

/-- Whether the fields of a record can carry these names side by side. A name that is not free or starts
with an underscore gives way to a number; of the others no two may be one name. -/
def canStandTogether (names : List Text) : Bool :=
  allDiffer ((names.filter fun name => isFreeName name && name.head? != some '_').map spelling)

namespace Json

mutual

def hasRecords : Json → Bool
  | .arr items => itemsHaveRecords items
  | .obj fields => canStandTogether (fields.map (·.1)) && fieldsHaveRecords fields
  | .null | .bool _ | .int _ | .real _ | .str _ => true

def itemsHaveRecords : List Json → Bool
  | [] => true
  | item :: items => hasRecords item && itemsHaveRecords items

def fieldsHaveRecords : List (Text × Json) → Bool
  | [] => true
  | (_, value) :: fields => hasRecords value && fieldsHaveRecords fields

end

end Json

end BasicWorkbench
