/-!
# Words in byte strings

A word is a number written in a fixed count of bytes, the most significant one
first or last. Reading outside the bytes yields nothing.
-/

namespace ClassAtlas

inductive ByteOrder where
  | mostSignificantFirst
  | leastSignificantFirst
deriving DecidableEq

namespace Bytes

def slice? (bytes : ByteArray) (start length : Nat) : Option ByteArray :=
  if start + length ≤ bytes.size then some (bytes.extract start (start + length)) else none

def number (digits : List UInt8) : Nat :=
  digits.foldl (fun value digit => 256 * value + digit.toNat) 0

end Bytes

namespace ByteOrder

def number (order : ByteOrder) (digits : List UInt8) : Nat :=
  match order with
  | mostSignificantFirst => Bytes.number digits
  | leastSignificantFirst => Bytes.number digits.reverse

def word? (order : ByteOrder) (bytes : ByteArray) (start width : Nat) : Option Nat :=
  (Bytes.slice? bytes start width).map fun part => order.number part.toList

end ByteOrder
end ClassAtlas
