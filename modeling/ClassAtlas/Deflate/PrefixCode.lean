/-!
# Prefix codes

A prefix code gives each symbol a bit string, none the start of another. It is
fixed by the lengths of the strings: shorter ones come first, and those of one
length are counted up in the order of their symbols.
-/

namespace ClassAtlas

structure PrefixCode where
  /-- How many symbols have a string of length one, two and so on. -/
  counts : List Nat
  symbols : Array Nat

namespace PrefixCode

def maxLength : Nat :=
  15

def symbolsOf (lengths : List Nat) (length : Nat) : List Nat :=
  (lengths.zipIdx.filter fun entry => entry.1 = length).map Prod.snd

/-- The share of all strings that those with a given length start, out of
`2 ^ maxLength`; symbols of length zero do not occur. -/
def share (length : Nat) : Nat :=
  if length = 0 then 0 else Nat.pow 2 (maxLength - length)

def taken (lengths : List Nat) : Nat :=
  (lengths.map share).foldl (· + ·) 0

def isComplete (lengths : List Nat) : Bool :=
  taken lengths = Nat.pow 2 maxLength

/-- Only a code whose single string has one bit, or that has none, may leave room. -/
def isValid (lengths : List Nat) : Bool :=
  isComplete lengths ||
    (taken lengths < Nat.pow 2 maxLength && lengths.all fun length => length ≤ 1)

/-- The code with these lengths, where one bit at least is read before a string is
known not to belong to it. -/
def ofLengths (lengths : List Nat) : PrefixCode :=
  let groups := (List.range (lengths.foldl Nat.max 1)).map fun index =>
    symbolsOf lengths (index + 1)
  { counts := groups.map List.length
    symbols := groups.flatten.toArray }

def ofLengths? (lengths : List Nat) : Option PrefixCode :=
  if isValid lengths then some (ofLengths lengths) else none

def constant (symbol : Nat) : PrefixCode where
  counts := [2]
  symbols := #[symbol, symbol]

end PrefixCode
end ClassAtlas
