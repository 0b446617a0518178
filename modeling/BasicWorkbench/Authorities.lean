import BasicWorkbench.Faults
import BasicWorkbench.QuotedText
import BasicWorkbench.Text
import BasicWorkbench.Utf8Decoding

namespace BasicWorkbench

def hexValue? (c : Char) : Option Nat :=
  if '0' ≤ c ∧ c ≤ '9' then some (c.toNat - '0'.toNat)
  else if 'a' ≤ c ∧ c ≤ 'f' then some (c.toNat - 'a'.toNat + 10)
  else if 'A' ≤ c ∧ c ≤ 'F' then some (c.toNat - 'A'.toNat + 10)
  else none

def hexByte? (high low : Char) : Option UInt8 := do
  let h ← hexValue? high
  let l ← hexValue? low
  some (UInt8.ofNat (h * 16 + l))

/-- Replaces percent escapes by what their bytes say; `pending` holds the bytes since the last
character beyond ASCII, latest first. -/
def percentDecodeFrom (pending : List UInt8) : Text → Text
  | [] => decodeLossy pending.reverse
  | '%' :: a :: b :: rest =>
    match hexByte? a b with
    | some byte => percentDecodeFrom (byte :: pending) rest
    | none => percentDecodeFrom (0x25 :: pending) (a :: b :: rest)
  | c :: s =>
    if c.toNat < 128 then percentDecodeFrom (UInt8.ofNat c.toNat :: pending) s
    else decodeLossy pending.reverse ++ c :: percentDecodeFrom [] s

def percentDecode (s : Text) : Text := percentDecodeFrom [] s

/-- Bytes that stand for themselves in the path of a URI. -/
def isPlainInUri (c : Char) : Bool := c.isAlphanum || ['_', '.', '-', '~', '/'].contains c

def percentEncode (s : Text) : Text :=
  s.flatMap fun c =>
    if isPlainInUri c then [c]
    else (String.utf8EncodeChar c).flatMap fun b => '%' :: (hexText 2 b.toNat).map Char.toUpper

def cutBefore (p : Char → Bool) (s : Text) : Text × Text :=
  (s.takeWhile fun c => !p c, s.dropWhile fun c => !p c)

def isAddressNumber (s : Text) : Bool :=
  !s.isEmpty && s.length ≤ 3 && s.all Char.isDigit && (s = ['0'] || s.head? != some '0') &&
    digitsValue s ≤ 255

def isOldAddress (s : Text) : Bool :=
  let parts := splitAtChar '.' s
  parts.length == 4 && parts.all isAddressNumber

def isAddressGroup (s : Text) : Bool :=
  !s.isEmpty && s.length ≤ 4 && s.all fun c => (hexValue? c).isSome

/-- The number of groups on one side of a gap. Nothing may stand there, which leaves an empty text. -/
def groupsBesideGap? (parts : List Text) : Option Nat :=
  if parts = [[]] then some 0 else if parts.all isAddressGroup then some parts.length else none

def areAddressGroups (parts : List Text) : Bool :=
  match parts with
  | [] => false
  | first :: parts =>
    match parts.dropWhile (!·.isEmpty) with
    | _ :: p :: after =>
      match groupsBesideGap? (first :: parts.takeWhile (!·.isEmpty)), groupsBesideGap? (p :: after) with
      | some low, some high => low + high ≤ 7
      | _, _ => false
    | _ => parts.length == 7 && (first :: parts).all isAddressGroup

/-- Whether a text is an address in groups with colons between them. The last two groups can be
written as four numbers, and a scope can follow behind a percent sign. -/
def isNewAddress (s : Text) : Bool :=
  let (address, scope) := cutBefore (· == '%') s
  let parts := splitAtChar ':' address
  let last := parts.getLast?.getD []
  let scopeFits :=
    match scope with
    | [] => true
    | _ :: scope => !scope.isEmpty && !scope.contains '%'
  scopeFits &&
    if last.contains '.' then isOldAddress last && areAddressGroups (parts.dropLast ++ [['0'], ['0']])
    else areAddressGroups parts

/-- Whether a text that starts with a v goes on like an address of a later version: a hexadecimal
number, a dot and something more. -/
def isFutureAddress (s : Text) : Bool :=
  let (version, rest) := cutBefore (fun c => (hexValue? c).isNone) (s.drop 1)
  match rest with
  | '.' :: _ :: _ => !version.isEmpty
  | _ => false

def checkBracketed (host : Text) : Except Fault Unit :=
  if host.head? = some 'v' then if isFutureAddress host then .ok () else .error .badFutureAddress
  else if isOldAddress host then .error .oldAddressInBrackets
  else if isNewAddress host then .ok ()
  else .error (.noAddress host)

/-- Characters that compatibility forms spell with one of the characters that end an authority or
divide it. -/
def deceptiveRanges : List (Nat × Nat) := [
  (0x2047, 0x2049), (0x2100, 0x2101), (0x2105, 0x2106), (0x2a74, 0x2a74), (0xfe13, 0xfe13),
  (0xfe16, 0xfe16), (0xfe55, 0xfe56), (0xfe5f, 0xfe5f), (0xfe6b, 0xfe6b), (0xff03, 0xff03),
  (0xff0f, 0xff0f), (0xff1a, 0xff1a), (0xff1f, 0xff20)]

def hostPart (authority : Text) : Text := (authority.reverse.takeWhile (· != '@')).reverse

/-- Checks the host of an authority that has brackets somewhere. Nothing but a port may stand around
brackets of the host; a host without them has to be such an address all the same. -/
def checkHost (host : Text) : Except Fault Unit :=
  match cutBefore (· == '[') host with
  | (_, []) => checkBracketed (cutBefore (· == ':') host).1
  | ([], _ :: rest) =>
    match cutBefore (· == ']') rest with
    | (address, _ :: c :: _) => if c = ':' then checkBracketed address else .error .badBrackets
    | (address, _) => checkBracketed address
  | _ => .error .badBrackets

def checkBrackets (authority : Text) : Except Fault Unit :=
  match authority.contains '[', authority.contains ']' with
  | false, false => .ok ()
  | true, true => checkHost (hostPart authority)
  | _, _ => .error .badBrackets

def checkAuthority (authority : Text) : Except Fault Unit := do
  checkBrackets authority
  if authority.any fun c => inRanges deceptiveRanges c.toNat then
    .error (.deceptiveAuthority authority)

end BasicWorkbench
