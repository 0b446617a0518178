import BasicWorkbench.Json

namespace BasicWorkbench

namespace Json

/-- The value as a whole number: a truth value is one or zero, a fraction is cut off, and a text is read
as a numeral. -/
def whole? : Json → Option Int
  | .int i => some i
  | .bool b => some (if b then 1 else 0)
  | .real x => x.wholePart?.map (·.1)
  | .str s => readInteger? s
  | .null | .arr _ | .obj _ => none

def equalWhole? : Json → Option Int
  | .int i => some i
  | .bool b => some (if b then 1 else 0)
  | .real x => x.wholePart?.bind fun (n, exact) => if exact then some n else none
  | .null | .str _ | .arr _ | .obj _ => none

/-- The values that a value is made of: the items of a list, the characters of a text and the names in
an object. -/
def parts? : Json → Option (List Json)
  | .arr items => some items
  | .str s => some (s.map fun c => .str [c])
  | .obj fields => some (fields.map fun f => .str f.1)
  | .null | .bool _ | .int _ | .real _ => none

/-- Looks for a member of a value. A list and a text have none and can still mention its name, which is
refused like a value that mentions nothing. -/
def member? (name : Text) : Json → Option (Option Json)
  | .obj fields => some (fields.lookup name)
  | .arr items =>
    let mentioned := items.any fun
      | .str s => s = name
      | _ => false
    if mentioned then none else some none
  | .str s => if occursIn name s then none else some none
  | .null | .bool _ | .int _ | .real _ => none

end Json

/-- What a value is read as where a shape is expected; nothing where the value does not fit. -/
abbrev ValueShape := Json → Option Json

/-- A member that an object is expected to have, or may have. -/
structure MemberShape where
  name : Text
  required : Bool
  shape : ValueShape

def MemberShape.must (name : Text) (shape : ValueShape) : MemberShape := ⟨name, true, shape⟩

def MemberShape.may (name : Text) (shape : ValueShape) : MemberShape := ⟨name, false, shape⟩

/-- Reads a member. One that may be missing can be null as well; one that is required is looked for in
objects only. -/
def MemberShape.read (member : MemberShape) (value : Json) : Option (List (Text × Json)) :=
  if member.required then
    match value with
    | .obj fields => do
      let v ← member.shape (← fields.lookup member.name)
      some [(member.name, v)]
    | _ => none
  else
    match value.member? member.name with
    | none => none
    | some none | some (some .null) => some []
    | some (some v) => (member.shape v).map fun v => [(member.name, v)]

namespace ValueShape

def anything : ValueShape := some

def single : ValueShape := fun v => if v.isSingle then some v else none

def text : ValueShape := fun v => some (.str v.words)

def flag : ValueShape := fun v => some (.bool v.isGiven)

def wholeWithin (low high : Int) : ValueShape := fun v =>
  v.whole?.bind fun n => if low ≤ n ∧ n ≤ high then some (.int n) else none

def numberLimit : Int := 2147483647

def whole : ValueShape := fun v => v.whole?.map .int

def integer : ValueShape := wholeWithin (-numberLimit - 1) numberLimit

def count : ValueShape := wholeWithin 0 numberLimit

def oneUpTo (last : Int) : ValueShape := fun v =>
  v.equalWhole?.bind fun n => if 1 ≤ n ∧ n ≤ last then some (.int n) else none

def oneOf (known : List Text) : ValueShape
  | .str s => if known.contains s then some (.str s) else none
  | _ => none

def listOf (item : ValueShape) : ValueShape := fun v => do
  let items ← v.parts?
  .arr <$> items.mapM item

def object (members : List MemberShape) : ValueShape := fun v => do
  let fields ← members.mapM fun member => member.read v
  some (.obj fields.flatten)

def byMember (name : Text) (present missing : ValueShape) : ValueShape
  | .obj fields => if (fields.lookup name).isSome then present (.obj fields) else missing (.obj fields)
  | _ => none

def plainOr (other : ValueShape) : ValueShape
  | .arr items => other (.arr items)
  | .obj fields => other (.obj fields)
  | .null => other .null
  | plain => some plain

end ValueShape

end BasicWorkbench
