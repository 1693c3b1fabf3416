import ClassAtlas.Archive.Checksum
import ClassAtlas.Archive.Member

/-!
# Extra fields of members

An entry of the directory ends with fields that each have a kind and a length.
Some of them revise what the entry says; those of an unknown kind are passed over,
even where the last one lacks its length.
-/

namespace ClassAtlas
namespace Archive

/-- The largest number of four bytes, which says that the true number is longer. -/
def tooWide : Nat :=
  0xFFFFFFFF

/-- A number in eight bytes, if the field has room for all three that may be revised
or this one does not fit its place in the entry. -/
def widened (length value : Nat) : Decoder Nat :=
  if 24 ≤ length || value = tooWide then word 8 else return value

/-- The numbers that do not fit their places; what is behind them may be cut off. -/
def wideNumbers (length : Nat) (member : Member) : Decoder Member := do
  let start ← Decoder.position
  let size ← widened length member.size
  let storedSize ← widened length member.storedSize
  let header ← widened length member.header
  let taken := (← Decoder.position) - start
  if length < taken then
    failure
  Decoder.skip (Nat.min (length - taken) (← Decoder.remaining))
  return { member with size, storedSize, header }

/-- The bytes of a text in UTF-8 that stands for another one, told by its checksum. -/
def standIn (length : Nat) (replaced : ByteArray) : Decoder ByteArray := do
  Decoder.skip 1
  let checksum ← word 4
  if length < 5 then
    failure
  let text ← Decoder.take (length - 5)
  if Checksum.ofBytes replaced ≠ UInt32.ofNat checksum then
    failure
  return text

def nameInUtf8 (length : Nat) (member : Member) : Decoder Member := do
  let text ← standIn length member.rawName.toByteArray
  let name ← Decoder.ofOption (String.fromUTF8? text)
  return { member with rawName := text.toList, name }

def commentInUtf8 (length : Nat) (member : Member) : Decoder Member := do
  let text ← standIn length member.comment.toUTF8
  let comment ← Decoder.ofOption (String.fromUTF8? text)
  return { member with comment }

/-- Times of four bytes each, one for each flag. A field of five bytes has one time
whatever its flags say. -/
def times (length : Nat) : Decoder Unit := do
  let flags ← word 1
  if length ≠ 5 && length ≠ 1 + 4 * (List.range 8).countP flags.testBit then
    failure
  Decoder.skip (length - 1)

def fineTimes (length : Nat) : Decoder Unit := do
  if length ≠ 32 then
    failure
  Decoder.skip 4
  let tag ← word 2
  let size ← word 2
  if tag ≠ 1 || size ≠ 24 then
    failure
  Decoder.skip 24

def cipher (length : Nat) (member : Member) : Decoder Member := do
  let version ← word 2
  let vendor ← word 2
  let strength ← word 1
  let method ← word 2
  if length ≠ 7 || vendor ≠ 0x4541 || !(version = 1 || version = 2) ||
      !(1 ≤ strength && strength ≤ 3) then
    failure
  return { member with method, hasCipher := true }

/-- The kinds of fields that have a meaning; the last one only keeps contents at round
positions. -/
def isKnownKind (kind : Nat) : Bool :=
  [0x0001, 0x000A, 0x5455, 0x6375, 0x7075, 0x9901, 0xA11E].contains kind

def extraFieldOf (kind : Nat) (member : Member) : Decoder Member := do
  let length ← word 2
  match kind with
  | 0x0001 => wideNumbers length member
  | 0x000A =>
      fineTimes length
      return member
  | 0x5455 =>
      times length
      return member
  | 0x6375 => commentInUtf8 length member
  | 0x7075 => nameInUtf8 length member
  | 0x9901 => cipher length member
  | _ =>
      Decoder.skip length
      return member

def extraField (member : Member) : Decoder Member := do
  let kind ← word 2
  let rest ← Decoder.remaining
  if rest < 2 && !isKnownKind kind then
    Decoder.skip rest
    return member
  else
    extraFieldOf kind member

/-- All extra fields; a rest too short for a kind is passed over. Each field takes two
bytes at least, so the number of bytes bounds their number. -/
def extraFields : Nat → Member → Decoder Member
  | 0, member => return member
  | bound + 1, member => do
      if (← Decoder.remaining) < 2 then return member
      else extraFields bound (← extraField member)

/-- The method that only says that the content is encrypted. -/
def encryptedMethod : Nat :=
  99

def positionLimit : Nat :=
  0x10000000000000000

def member (shift : Nat) : Decoder Member := do
  let (plain, extra) ← plainMember
  let revised ← Decoder.ofOption (Decoder.read? (extraFields extra.size plain) extra)
  if revised.method = encryptedMethod && !revised.hasCipher then
    failure
  if positionLimit ≤ shift + revised.header then
    failure
  return { revised with header := shift + revised.header }

end Archive
end ClassAtlas
