import ClassAtlas.Text.Utf8

/-!
# Texts in class files

A text constant holds 16-bit units in one to three bytes each; the zero
character may take two bytes, and a character above the basic plane is a pair of
surrogate units of three bytes each.
-/

namespace ClassAtlas
namespace ClassFile

def isLeading (unit : Nat) : Bool :=
  0xD800 ≤ unit && unit < 0xDC00

def isTrailing (unit : Nat) : Bool :=
  0xDC00 ≤ unit && unit < 0xE000

def isSurrogate (unit : Nat) : Bool :=
  isLeading unit || isTrailing unit

def isContinuation (byte : UInt8) : Bool :=
  byte &&& 0xC0 = 0x80

def payload (byte : UInt8) : Nat :=
  (byte &&& 0x3F).toNat

/-- The unit that two bytes hold. No unit but zero may take more bytes than it needs. -/
def unitOfTwo? (first second : UInt8) : Option Nat :=
  let unit := (first &&& 0x1F).toNat * 64 + payload second
  if isContinuation second && (unit = 0 || 0x80 ≤ unit) then some unit else none

/-- The unit that three bytes hold. A surrogate is known by the bits of its value
alone; all other units need continuation bytes. -/
def unitOfThree? (first second third : UInt8) : Option Nat :=
  let unit := (first &&& 0x0F).toNat * 4096 + payload second * 64 + payload third
  if isSurrogate unit ||
      (isContinuation second && isContinuation third && 0x800 ≤ unit) then some unit
  else none

def units? : List UInt8 → Option (List Nat)
  | [] => some []
  | first :: rest =>
      if first < 0x80 then (units? rest).map (first.toNat :: ·)
      else if first &&& 0xE0 = 0xC0 then
        match rest with
        | second :: rest => do
            let unit ← unitOfTwo? first second
            return unit :: (← units? rest)
        | _ => none
      else if first &&& 0xF0 = 0xE0 then
        match rest with
        | second :: third :: rest => do
            let unit ← unitOfThree? first second third
            return unit :: (← units? rest)
        | _ => none
      else none

/-- A surrogate without its partner is no character. -/
def ofUnit (unit : Nat) : Char :=
  if isSurrogate unit then Text.replacement else Char.ofNat unit

def ofUnits : List Nat → List Char
  | [] => []
  | [unit] => [ofUnit unit]
  | first :: second :: rest =>
      if isLeading first && isTrailing second then
        Char.ofNat (0x10000 + (first - 0xD800) * 1024 + (second - 0xDC00)) :: ofUnits rest
      else ofUnit first :: ofUnits (second :: rest)

def text? (bytes : ByteArray) : Option String :=
  (units? bytes.toList).map fun units => String.ofList (ofUnits units)

end ClassFile
end ClassAtlas
