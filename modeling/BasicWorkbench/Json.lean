import BasicWorkbench.QuotedText
import BasicWorkbench.RealNumbers

namespace BasicWorkbench

/-- A value that an editor sends. Whole numbers and numbers written with a point or an exponent are
told apart; the fields of an object keep their order. -/
inductive Json where
  | null
  | bool (b : Bool)
  | int (i : Int)
  | real (x : RealNumber)
  | str (s : Text)
  | arr (items : List Json)
  | obj (fields : List (Text × Json))
  deriving Repr

/-- Whether a value counts as given: null, false, zero and everything empty do not. -/
def Json.isGiven : Json → Bool
  | .null => false
  | .bool b => b
  | .int i => i != 0
  | .real x => !x.isZero
  | .str s => !s.isEmpty
  | .arr items => !items.isEmpty
  | .obj fields => !fields.isEmpty

def Json.isSingle : Json → Bool
  | .arr _ | .obj _ => false
  | _ => true

def Json.kindWord : Json → Text
  | .null => "NoneType"
  | .bool _ => "bool"
  | .int _ => "int"
  | .real _ => "float"
  | .str _ => "str"
  | .arr _ => "list"
  | .obj _ => "dict"

def fieldOf (fields : List (Text × Json)) (name : Text) : Json := (fields.lookup name).getD .null

def setField (name : Text) (value : Json) : List (Text × Json) → List (Text × Json)
  | [] => [(name, value)]
  | (n, v) :: fields => if n = name then (n, value) :: fields else (n, v) :: setField name value fields

namespace Json

mutual

def inner : Json → Text
  | .null => "None"
  | .bool b => if b then "True" else "False"
  | .int i => intText i
  | .real x => x.text
  | .str s => quoted s
  | .arr items => '[' :: joinWith ", " (innerItems items) ++ [']']
  | .obj fields => '\x7b' :: joinWith ", " (innerFields fields) ++ ['\x7d']

def innerItems : List Json → List Text
  | [] => []
  | item :: items => inner item :: innerItems items

def innerFields : List (Text × Json) → List Text
  | [] => []
  | (name, value) :: fields => (quoted name ++ ": " ++ inner value) :: innerFields fields

end

/-- A value as it is written out in place of a text: a text as it is, all else as inside a value. -/
def words : Json → Text
  | .str s => s
  | value => value.inner

end Json

end BasicWorkbench
