/-!
# Texts from bytes

Any bytes can be read as UTF-8 if what makes no sense is replaced. A machine
reads them one at a time: the first byte of a character says how many follow and
bounds the next one, and a byte out of bounds breaks the character off and starts
afresh.
-/

namespace ClassAtlas
namespace Text

/-- What stands for bytes, or for code units, that are no character. -/
def replacement : Char :=
  '\uFFFD'

namespace Utf8

structure Begun where
  /-- How many bytes come after the next one. -/
  later : Nat
  /-- The number that the bytes so far spell. -/
  value : Nat
  /-- The bounds of the next byte. -/
  least : UInt8
  greatest : UInt8

def begun (byte : UInt8) (bits : Nat) (later : Nat) (least greatest : UInt8) : Begun where
  later := later
  value := byte.toNat % Nat.pow 2 bits
  least := least
  greatest := greatest

/-- The character that a byte of the upper half begins, if any. The bounds keep out
what could be written shorter, surrogates and numbers beyond the last character. -/
def begun? (byte : UInt8) : Option Begun :=
  if byte < 0xC2 then none
  else if byte < 0xE0 then some (begun byte 5 0 0x80 0xBF)
  else if byte = 0xE0 then some (begun byte 4 1 0xA0 0xBF)
  else if byte = 0xED then some (begun byte 4 1 0x80 0x9F)
  else if byte < 0xF0 then some (begun byte 4 1 0x80 0xBF)
  else if byte = 0xF0 then some (begun byte 3 2 0x90 0xBF)
  else if byte < 0xF4 then some (begun byte 3 2 0x80 0xBF)
  else if byte = 0xF4 then some (begun byte 3 2 0x80 0x8F)
  else none

def between (byte : UInt8) : List Char × Option Begun :=
  if byte < 0x80 then ([Char.ofNat byte.toNat], none)
  else
    match begun? byte with
    | some character => ([], some character)
    | none => ([replacement], none)

def within (character : Begun) (byte : UInt8) : List Char × Option Begun :=
  if character.least ≤ byte && byte ≤ character.greatest then
    let value := character.value * 64 + byte.toNat % 64
    match character.later with
    | 0 => ([Char.ofNat value], none)
    | later + 1 => ([], some { later, value, least := 0x80, greatest := 0xBF })
  else
    let (done, next) := between byte
    (replacement :: done, next)

def step : Option Begun → UInt8 → List Char × Option Begun
  | none => between
  | some character => within character

def chars : Option Begun → List UInt8 → List Char
  | none, [] => []
  | some _, [] => [replacement]
  | state, byte :: rest =>
      let (done, next) := step state byte
      done ++ chars next rest

end Utf8

def ofUtf8 (bytes : List UInt8) : String :=
  String.ofList (Utf8.chars none bytes)

/-!
# The size of a text
-/

theorem utf8ByteSize_cons (first : Char) (rest : List Char) :
    (String.ofList (first :: rest)).utf8ByteSize =
      first.utf8Size + (String.ofList rest).utf8ByteSize := by
  rw [String.ofList_cons, String.utf8ByteSize_append, String.utf8ByteSize_singleton]

theorem length_le_utf8ByteSize (text : List Char) :
    text.length ≤ (String.ofList text).utf8ByteSize := by
  induction text with
  | nil => exact Nat.zero_le _
  | cons first rest ih =>
      have positive := first.utf8Size_pos
      rw [utf8ByteSize_cons, List.length_cons]
      omega

end Text
end ClassAtlas
