import BasicWorkbench.Text

namespace BasicWorkbench

/-- Why bytes are not UTF-8: no character starts like this, a character breaks off before another
byte, or the bytes end inside a character. -/
inductive Utf8Flaw where
  | badStart
  | badContinuation
  | cutShort
  deriving DecidableEq, Repr

/-- One reading step: a character, or a flaw and the number of bytes it spoils. -/
inductive Utf8Item where
  | char (c : Char)
  | flaw (why : Utf8Flaw) (bytes : Nat)
  deriving DecidableEq, Repr

/-- Where the reader stands: between characters, or inside one with `more` bytes to come, the next
of them from `low` to `high`, the bits read so far in `bits` and the bytes read in `taken`. -/
inductive Utf8State where
  | between
  | inside (more low high bits taken : Nat)
  deriving DecidableEq, Repr

/-- What a byte does between characters. Overlong forms, surrogates and code points past the last
plane are refused at the earliest byte that shows them. -/
def startChar (b : Nat) : List Utf8Item × Utf8State :=
  if b < 0x80 then ([.char (Char.ofNat b)], .between)
  else if b < 0xc2 then ([.flaw .badStart 1], .between)
  else if b < 0xe0 then ([], .inside 1 0x80 0xbf (b - 0xc0) 1)
  else if b = 0xe0 then ([], .inside 2 0xa0 0xbf 0 1)
  else if b = 0xed then ([], .inside 2 0x80 0x9f 0xd 1)
  else if b < 0xf0 then ([], .inside 2 0x80 0xbf (b - 0xe0) 1)
  else if b = 0xf0 then ([], .inside 3 0x90 0xbf 0 1)
  else if b < 0xf4 then ([], .inside 3 0x80 0xbf (b - 0xf0) 1)
  else if b = 0xf4 then ([], .inside 3 0x80 0x8f 4 1)
  else ([.flaw .badStart 1], .between)

def Utf8State.step (b : Nat) : Utf8State → List Utf8Item × Utf8State
  | .between => startChar b
  | .inside more low high bits taken =>
    if low ≤ b ∧ b ≤ high then
      let bits := bits * 64 + (b - 0x80)
      if more ≤ 1 then ([.char (Char.ofNat bits)], .between)
      else ([], .inside (more - 1) 0x80 0xbf bits (taken + 1))
    else
      let (items, next) := startChar b
      (.flaw .badContinuation taken :: items, next)

def Utf8State.run : Utf8State → List UInt8 → List Utf8Item
  | .between, [] => []
  | .inside _ _ _ _ taken, [] => [.flaw .cutShort taken]
  | st, b :: bytes =>
    let (items, next) := st.step b.toNat
    items ++ next.run bytes

def utf8Items (bytes : List UInt8) : List Utf8Item := Utf8State.between.run bytes

def decodeLossy (bytes : List UInt8) : Text :=
  (utf8Items bytes).map fun
    | .char c => c
    | .flaw _ _ => '\ufffd'

/-- A flaw with the position of its first byte, that byte and the number of bytes. -/
structure Utf8Fault where
  why : Utf8Flaw
  position : Nat
  byte : Nat
  bytes : Nat
  deriving DecidableEq, Repr

/-- The characters up to the first flaw, which is placed by the bytes in front of it. -/
def firstFlaw (position : Nat) : List Utf8Item → Except (Utf8Flaw × Nat × Nat) Text
  | [] => .ok []
  | .char c :: items => (c :: ·) <$> firstFlaw (position + c.utf8Size) items
  | .flaw why bytes :: _ => .error (why, position, bytes)

def decodeStrict (bytes : List UInt8) : Except Utf8Fault Text :=
  match firstFlaw 0 (utf8Items bytes) with
  | .ok s => .ok s
  | .error (why, position, count) =>
    .error ⟨why, position, ((bytes[position]?).map UInt8.toNat).getD 0, count⟩

def encodeUtf8 (s : Text) : List UInt8 := s.flatMap String.utf8EncodeChar

end BasicWorkbench
