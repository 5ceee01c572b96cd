import FlowSteer.Json.Basic

/-!
# Text of JSON strings

What a string stands for, read off its characters as written. Characters beyond the first plane
may be written as a pair of escapes; half a pair stands for no text.
-/

namespace FlowSteer

namespace Json

/-- Value of a hexadecimal digit. -/
def hexDigit (c : Char) : Nat :=
  if c.isDigit then c.toNat - '0'.toNat
  else if 'a' ≤ c then c.toNat - 'a'.toNat + 10
  else c.toNat - 'A'.toNat + 10

/-- Value of four hexadecimal digits. -/
def hexUnit (a b c d : Char) : Nat :=
  ((hexDigit a * 16 + hexDigit b) * 16 + hexDigit c) * 16 + hexDigit d

/-- Is a unit the first half of a pair. -/
def isHighHalf (unit : Nat) : Bool := 0xD800 ≤ unit && unit < 0xDC00

/-- Is a unit the second half of a pair. -/
def isLowHalf (unit : Nat) : Bool := 0xDC00 ≤ unit && unit < 0xE000

/-- The character that two halves stand for. -/
def joinHalves (high low : Nat) : Char :=
  Char.ofNat (0x10000 + (high - 0xD800) * 0x400 + (low - 0xDC00))

/-- The character that a one-letter escape stands for. -/
def simpleEscape : Char → Char
  | 'b' => '\x08'
  | 'f' => '\x0c'
  | 'n' => '\n'
  | 'r' => '\r'
  | 't' => '\t'
  | c => c

/-- The text that a string as written stands for. -/
def unescape? : List Char → Option (List Char)
  | [] => some []
  | '\\' :: 'u' :: a :: b :: c :: d :: '\\' :: 'u' :: e :: f :: g :: h :: rest =>
      let first := hexUnit a b c d
      let second := hexUnit e f g h
      if isHighHalf first then
        if isLowHalf second then (unescape? rest).map (joinHalves first second :: ·) else none
      else if isLowHalf first then none
      else (unescape? ('\\' :: 'u' :: e :: f :: g :: h :: rest)).map (Char.ofNat first :: ·)
  | '\\' :: 'u' :: a :: b :: c :: d :: rest =>
      let unit := hexUnit a b c d
      if isHighHalf unit || isLowHalf unit then none
      else (unescape? rest).map (Char.ofNat unit :: ·)
  | '\\' :: c :: rest => (unescape? rest).map (simpleEscape c :: ·)
  | c :: rest => (unescape? rest).map (c :: ·)

/-- The text of a string. -/
def text? : Json → Option (List Char)
  | string body => unescape? body
  | _ => none

end Json

end FlowSteer
