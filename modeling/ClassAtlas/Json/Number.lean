/-!
# Number literals

A number is kept as it was written: sign, whole digits, digits after the point
and exponent. A reader that stores numbers as doubles refuses a literal whose
value overflows; the rule for that is stated here in exact arithmetic.
-/

namespace ClassAtlas
namespace Json

structure Exponent where
  negative : Bool
  digits : List Char
deriving DecidableEq

structure Number where
  negative : Bool
  whole : List Char
  fraction : List Char
  exponent : Option Exponent
deriving DecidableEq

namespace Number

def ofNat (n : Nat) : Number where
  negative := false
  whole := Nat.toDigits 10 n
  fraction := []
  exponent := none

def digitValue (c : Char) : Nat :=
  c.toNat - 48

def valueOfDigits (digits : List Char) : Nat :=
  digits.foldl (fun value c => 10 * value + digitValue c) 0

def toNat? (number : Number) : Option Nat :=
  if number.negative || !number.fraction.isEmpty || number.exponent.isSome then none
  else some (valueOfDigits number.whole)

def chars (number : Number) : List Char :=
  (if number.negative then ['-'] else []) ++ number.whole ++
    (if number.fraction.isEmpty then [] else '.' :: number.fraction) ++
    match number.exponent with
    | none => []
    | some exponent => 'e' :: ((if exponent.negative then ['-'] else []) ++ exponent.digits)

/-!
# Range

The reader collects digits while they fit 64 bits, keeps the power of ten apart,
rounds both to 53 significant bits and multiplies. The product overflows from
`2 ^ 1024 - 2 ^ 970` on, where rounding would leave the finite doubles.
-/

def wordLimit : Nat :=
  Nat.pow 2 64

/-- The significand after the digits that fit, with the digits that did not. -/
def collectDigits (significand : Nat) : List Char → Nat × List Char
  | [] => (significand, [])
  | c :: rest =>
      let next := 10 * significand + digitValue c
      if next < wordLimit then collectDigits next rest else (significand, c :: rest)

/-- The nearest number with 53 significant bits; a tie goes to the even one. -/
def roundToDouble (n : Nat) : Nat :=
  if n < Nat.pow 2 53 then n
  else
    let unit := Nat.pow 2 (n.log2 - 52)
    let quotient := n / unit
    let remainder := n % unit
    let up := unit < 2 * remainder || (2 * remainder = unit && quotient % 2 = 1)
    (if up then quotient + 1 else quotient) * unit

def overflowBound : Nat :=
  Nat.pow 2 1024 - Nat.pow 2 970

def largestTenPower : Nat :=
  308

/-- Whether `significand * 10 ^ exponent` rounds to a finite double. -/
def scaledFits (significand : Nat) (exponent : Int) : Bool :=
  if exponent < 0 || significand = 0 then true
  else
    exponent ≤ largestTenPower &&
      roundToDouble significand * roundToDouble (Nat.pow 10 exponent.toNat) < overflowBound

/-- A written exponent must fit 31 bits, or the value is zero or out of range. -/
def exponentLimit : Nat :=
  Nat.pow 2 31

def fitsDouble (number : Number) : Bool :=
  let (wholePart, dropped) := collectDigits 0 number.whole
  let (significand, cut) := collectDigits wholePart number.fraction
  let scale : Int := (dropped.length : Int) - ((number.fraction.length - cut.length : Nat) : Int)
  match number.exponent with
  | none => scaledFits significand scale
  | some exponent =>
      let size := valueOfDigits exponent.digits
      if size < exponentLimit then
        scaledFits significand (if exponent.negative then scale - size else scale + size)
      else exponent.negative || significand = 0

end Number
end Json
end ClassAtlas
