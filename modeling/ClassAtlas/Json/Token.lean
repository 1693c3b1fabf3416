import ClassAtlas.Json.Basic
import ClassAtlas.Text.Quoted

/-!
# Tokens

A text is cut into brackets, separators, literals and strings. White space
between tokens is only the four characters of the format, not every blank.
-/

namespace ClassAtlas
namespace Json

inductive Token where
  | openArray
  | closeArray
  | openObject
  | closeObject
  | comma
  | colon
  | null
  | bool (value : Bool)
  | number (literal : Number)
  | string (text : Option String)
deriving DecidableEq

namespace Token

def isSpace (c : Char) : Bool :=
  c = ' ' || c = '\n' || c = '\t' || c = '\r'

/-!
# Characters of a string

A character stands for itself, or follows a backslash, or is written by its
code units in hexadecimal. A code unit of a surrogate pair without its partner
stands for no character. Controls never stand for themselves.
-/

def hexValue? (c : Char) : Option Nat :=
  if '0' ≤ c && c ≤ '9' then some (c.toNat - 48)
  else if 'a' ≤ c && c ≤ 'f' then some (c.toNat - 87)
  else if 'A' ≤ c && c ≤ 'F' then some (c.toNat - 55)
  else none

def codeUnit? (a b c d : Char) : Option Nat := do
  let a ← hexValue? a
  let b ← hexValue? b
  let c ← hexValue? c
  let d ← hexValue? d
  return ((a * 16 + b) * 16 + c) * 16 + d

def escaped? (c : Char) : Option Char :=
  if c = '"' then some '"'
  else if c = '\\' then some '\\'
  else if c = '/' then some '/'
  else if c = 'b' then some '\x08'
  else if c = 'f' then some '\x0c'
  else if c = 'n' then some '\n'
  else if c = 'r' then some '\r'
  else if c = 't' then some '\t'
  else none

def ofPair (high low : Nat) : Char :=
  Char.ofNat (0x10000 + (high - 0xD800) * 0x400 + (low - 0xDC00))

def lowHalf? : List Char → Option (Nat × List Char)
  | '\\' :: 'u' :: a :: b :: c :: d :: rest =>
      (codeUnit? a b c d).bind fun unit =>
        if 0xDC00 ≤ unit && unit < 0xE000 then some (unit, rest) else none
  | _ => none

def ofCodeUnit (unit : Nat) (rest : List Char) : Option Char × List Char :=
  if unit < 0xD800 || 0xE000 ≤ unit then (some (Char.ofNat unit), rest)
  else if 0xDC00 ≤ unit then (none, rest)
  else
    match lowHalf? rest with
    | some (low, later) => (some (ofPair unit low), later)
    | none => (none, rest)

/-- One character of a string, or a code unit that is none, and what follows it. -/
def readChar? : List Char → Option (Option Char × List Char)
  | [] => none
  | '\\' :: 'u' :: a :: b :: c :: d :: rest =>
      (codeUnit? a b c d).map fun unit => ofCodeUnit unit rest
  | ['\\'] => none
  | '\\' :: c :: rest => (escaped? c).map fun plain => (some plain, rest)
  | c :: rest => if c.toNat < 32 then none else some (some c, rest)

theorem length_le_of_lowHalf? {text rest : List Char} {unit : Nat}
    (read : lowHalf? text = some (unit, rest)) : rest.length ≤ text.length := by
  unfold lowHalf? at read
  split at read
  · rcases Option.bind_eq_some_iff.mp read with ⟨value, _, taken⟩
    split at taken
    · rcases Prod.mk.inj (Option.some.inj taken) with ⟨_, rfl⟩
      simp only [List.length_cons]
      omega
    · simp at taken
  · simp at read

theorem length_ofCodeUnit_le (unit : Nat) (rest : List Char) :
    (ofCodeUnit unit rest).2.length ≤ rest.length := by
  unfold ofCodeUnit
  split
  · exact Nat.le_refl rest.length
  · split
    · exact Nat.le_refl rest.length
    · split
      · next low later paired => exact length_le_of_lowHalf? paired
      · exact Nat.le_refl rest.length

theorem length_lt_of_readChar? {text rest : List Char} {c : Option Char}
    (read : readChar? text = some (c, rest)) : rest.length < text.length := by
  unfold readChar? at read
  split at read
  · simp at read
  · next a b c d later =>
      rcases Option.map_eq_some_iff.mp read with ⟨unit, _, same⟩
      have shorter := length_ofCodeUnit_le unit later
      simp only [same] at shorter
      simp only [List.length_cons]
      omega
  · simp at read
  · rcases Option.map_eq_some_iff.mp read with ⟨plain, _, same⟩
    rcases Prod.mk.inj same with ⟨_, rfl⟩
    simp only [List.length_cons]
    omega
  · split at read
    · simp at read
    · rcases Prod.mk.inj (Option.some.inj read) with ⟨_, rfl⟩
      simp

def spelled? (read : List (Option Char)) : Option String :=
  (read.mapM id).map String.ofList

/-- The rest of a string after its opening quote; `read` holds what was read, last first. -/
def readString? (read : List (Option Char)) (text : List Char) :
    Option (Option String × List Char) :=
  if text.head? = some '"' then some (spelled? read.reverse, text.tail)
  else
    match _found : readChar? text with
    | none => none
    | some (c, rest) => readString? (c :: read) rest
termination_by text.length
decreasing_by exact length_lt_of_readChar? _found

/-!
# Numbers
-/

def digits (text : List Char) : List Char × List Char :=
  (text.takeWhile Char.isDigit, text.dropWhile Char.isDigit)

def fraction? : List Char → Option (List Char × List Char)
  | '.' :: rest =>
      let (read, later) := digits rest
      if read.isEmpty then none else some (read, later)
  | text => some ([], text)

def exponentSign : List Char → Bool × List Char
  | '-' :: rest => (true, rest)
  | '+' :: rest => (false, rest)
  | text => (false, text)

def exponent? (text : List Char) : Option (Option Exponent × List Char) :=
  if text.head? = some 'e' || text.head? = some 'E' then
    let (negative, rest) := exponentSign text.tail
    let (read, later) := digits rest
    if read.isEmpty then none else some (some ⟨negative, read⟩, later)
  else some (none, text)

def whole? : List Char → Option (List Char × List Char)
  | '0' :: rest => some (['0'], rest)
  | text =>
      let (read, later) := digits text
      if read.isEmpty then none else some (read, later)

def unsigned? (negative : Bool) (text : List Char) : Option (Number × List Char) := do
  let (whole, afterWhole) ← whole? text
  let (fraction, afterFraction) ← fraction? afterWhole
  let (exponent, rest) ← exponent? afterFraction
  return (⟨negative, whole, fraction, exponent⟩, rest)

def number? : List Char → Option (Number × List Char)
  | '-' :: rest => unsigned? true rest
  | text => unsigned? false text

/-!
# Cutting a text into tokens
-/

/-- The token a text starts with; the text must not start with white space. -/
def first? : List Char → Option (Token × List Char)
  | [] => none
  | '[' :: rest => some (.openArray, rest)
  | ']' :: rest => some (.closeArray, rest)
  | '\x7b' :: rest => some (.openObject, rest)
  | '\x7d' :: rest => some (.closeObject, rest)
  | ',' :: rest => some (.comma, rest)
  | ':' :: rest => some (.colon, rest)
  | '"' :: rest => (readString? [] rest).map fun (text, later) => (.string text, later)
  | 'n' :: 'u' :: 'l' :: 'l' :: rest => some (.null, rest)
  | 't' :: 'r' :: 'u' :: 'e' :: rest => some (.bool true, rest)
  | 'f' :: 'a' :: 'l' :: 's' :: 'e' :: rest => some (.bool false, rest)
  | text => (number? text).map fun (literal, later) => (.number literal, later)

/-- All tokens of a text; `read` holds those found so far, last first. The count
bounds the characters still to be looked at. -/
def scan : Nat → List Token → List Char → Option (List Token)
  | 0, read, text => if (text.dropWhile isSpace).isEmpty then some read.reverse else none
  | count + 1, read, text =>
      let solid := text.dropWhile isSpace
      if solid.isEmpty then some read.reverse
      else
        match first? solid with
        | none => none
        | some (token, rest) => scan count (token :: read) rest

def ofChars? (text : List Char) : Option (List Token) :=
  scan text.length [] text

end Token
end Json
end ClassAtlas
