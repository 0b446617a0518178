import BasicWorkbench.Text

namespace BasicWorkbench

/-- The zeros of the decimal digit blocks beyond ASCII; nine further digits follow each (Unicode 14). -/
def digitZeros : List Nat := [
    0x660, 0x6f0, 0x7c0, 0x966, 0x9e6, 0xa66, 0xae6, 0xb66, 0xbe6, 0xc66, 0xce6, 0xd66, 0xde6,
    0xe50, 0xed0, 0xf20, 0x1040, 0x1090, 0x17e0, 0x1810, 0x1946, 0x19d0, 0x1a80, 0x1a90, 0x1b50,
    0x1bb0, 0x1c40, 0x1c50, 0xa620, 0xa8d0, 0xa900, 0xa9d0, 0xa9f0, 0xaa50, 0xabf0, 0xff10,
    0x104a0, 0x10d30, 0x11066, 0x110f0, 0x11136, 0x111d0, 0x112f0, 0x11450, 0x114d0, 0x11650,
    0x116c0, 0x11730, 0x118e0, 0x11950, 0x11c50, 0x11d50, 0x11da0, 0x16a60, 0x16ac0, 0x16b50,
    0x1d7ce, 0x1d7d8, 0x1d7e2, 0x1d7ec, 0x1d7f6, 0x1e140, 0x1e2f0, 0x1e950, 0x1fbf0]

def digitValue? (c : Char) : Option Nat :=
  if c.toNat < 128 then
    if c.isDigit then some (c.toNat - '0'.toNat) else none
  else
    (digitZeros.find? fun z => z ≤ c.toNat && c.toNat ≤ z + 9).map fun z => c.toNat - z

def isDigit (c : Char) : Bool := (digitValue? c).isSome

def natText (n : Nat) : Text := Nat.toDigits 10 n

def intText : Int → Text
  | .ofNat n => natText n
  | .negSucc n => '-' :: natText (n + 1)

def digitsValue (digits : Text) : Nat :=
  digits.foldl (fun n c => n * 10 + (digitValue? c).getD 0) 0

/-- The longest number that is read, in digits. -/
def digitLimit : Nat := 4300

/-- Reads decimal digits; a number with more digits than the limit is refused with their count. -/
def readDigits (digits : Text) : Except Nat Nat :=
  if digitLimit < digits.length then .error digits.length else .ok (digitsValue digits)

def takeDigits? (s : Text) : Option (Text × Text) :=
  match s.takeWhile isDigit with
  | [] => none
  | digits => some (digits, s.dropWhile isDigit)

def dropSign : Text → Text
  | [] => []
  | c :: s => if c = '+' || c = '-' then s else c :: s

/-- What follows digits in which single underscores may stand between two digits. -/
def dropGroupTail : Text → Text
  | [] => []
  | '_' :: c :: s => if isDigit c then dropGroupTail s else '_' :: c :: s
  | c :: s => if isDigit c then dropGroupTail s else c :: s

/-- What follows a digit group: a digit, then more digits, single underscores between them. -/
def dropDigitGroup? : Text → Option Text
  | [] => none
  | c :: s => if isDigit c then some (dropGroupTail s) else none

def isExponentPart : Text → Bool
  | [] => true
  | c :: s => (c = 'e' || c = 'E') && dropDigitGroup? (dropSign s) == some []

/-- A decimal number without its sign: digit groups before, after or around a point, and an
exponent or none. -/
def isDecimal (s : Text) : Bool :=
  match dropDigitGroup? s with
  | some ('.' :: rest) => isExponentPart ((dropDigitGroup? rest).getD rest)
  | some rest => isExponentPart rest
  | none =>
    match s with
    | '.' :: rest =>
      match dropDigitGroup? rest with
      | some rest => isExponentPart rest
      | none => false
    | _ => false

/-- A number literal: a sign or none, then a decimal number, an infinity or no number at all. -/
def isNumberLiteral (s : Text) : Bool :=
  let body := dropSign s
  isDecimal body ||
    ["inf".toList, "infinity".toList, "nan".toList].contains (asciiLower body)

def isOuterBlank (c : Char) : Bool := isBlank c && !(0x1c ≤ c.toNat && c.toNat ≤ 0x1f)

/-- Reads an integer given as an argument: blanks around it, a sign or none, and a digit group
within the digit limit. -/
def readInteger? (s : Text) : Option Int :=
  let body := ((s.dropWhile isOuterBlank).reverse.dropWhile isOuterBlank).reverse
  let digits := (dropSign body).filter isDigit
  if dropDigitGroup? (dropSign body) = some [] ∧ digits.length ≤ digitLimit then
    let n : Int := digitsValue digits
    some (if body.head? = some '-' then -n else n)
  else none

end BasicWorkbench
