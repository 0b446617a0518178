namespace BasicWorkbench

/-- Text is the list of its code points, the unit in which columns and lengths are counted. -/
abbrev Text := List Char

instance : Coe String Text := ⟨String.toList⟩

def occursIn (w : Text) : Text → Bool
  | [] => w.isEmpty
  | c :: s => w.isPrefixOf (c :: s) || occursIn w s

def before (s rest : Text) : Text := s.take (s.length - rest.length)

theorem before_append (t r : Text) : before (t ++ r) r = t := by
  simp [before]

/-- Small letters for the ASCII capitals; all else stays. -/
def asciiLower (s : Text) : Text := s.map Char.toLower

def splitAtChar (sep : Char) : Text → List Text
  | [] => [[]]
  | c :: s =>
    match splitAtChar sep s with
    | [] => [[c]]
    | piece :: pieces => if c = sep then [] :: piece :: pieces else (c :: piece) :: pieces

def joinWith (sep : Text) : List Text → Text
  | [] => []
  | [piece] => piece
  | piece :: pieces => piece ++ sep ++ joinWith sep pieces

def inRanges (ranges : List (Nat × Nat)) (n : Nat) : Bool :=
  ranges.any fun r => r.1 ≤ n && n ≤ r.2

theorem inRanges_iff {ranges : List (Nat × Nat)} {n : Nat} :
    inRanges ranges n = true ↔ ∃ r ∈ ranges, r.1 ≤ n ∧ n ≤ r.2 := by
  simp [inRanges]

/-- Blank characters of every script: spaces, tabs, line breaks and information separators. -/
def isBlank (c : Char) : Bool :=
  let n := c.toNat
  n = 0x20 || (0x09 ≤ n && n ≤ 0x0d) || (0x1c ≤ n && n ≤ 0x1f) || n = 0x85 || n = 0xa0 ||
    n = 0x1680 || (0x2000 ≤ n && n ≤ 0x200a) || n = 0x2028 || n = 0x2029 || n = 0x202f ||
    n = 0x205f || n = 0x3000

def trimStart (s : Text) : Text := s.dropWhile isBlank

def trimEnd (s : Text) : Text := (s.reverse.dropWhile isBlank).reverse

def trim (s : Text) : Text := trimEnd (trimStart s)

def dropBlanks? : Text → Option Text
  | [] => none
  | c :: s => if isBlank c then some (trimStart s) else none

theorem trimStart_of_not_blank {c : Char} (h : isBlank c = false) (s : Text) :
    trimStart (c :: s) = c :: s := by
  simp [trimStart, h]

/-- The letter that stands for a character where case is ignored. Besides the ASCII capitals, both
Turkish letters i, the long s and the Kelvin sign count as their ASCII letters. -/
def foldChar (c : Char) : Char :=
  if c = '\u0130' || c = '\u0131' then 'i'
  else if c = '\u017f' then 's'
  else if c = '\u212a' then 'k'
  else c.toLower

/-- What follows the word `w`, written in small letters, at the start of a text, ignoring case. -/
def dropWord? : Text → Text → Option Text
  | [], s => some s
  | _ :: _, [] => none
  | w :: ws, c :: s => if foldChar c = w then dropWord? ws s else none

def isAsciiLetter (c : Char) : Bool := c.isAlpha

def isNameChar (c : Char) : Bool := c.isAlphanum || c == '_'

end BasicWorkbench
