import ClassAtlas.Archive.MemberText
import ClassAtlas.Archive.Record

/-!
# Members of archives

The directory of an archive has an entry for each member, with its names and with
what is needed to get at its content.
-/

namespace ClassAtlas
namespace Archive

structure Member where
  /-- The bytes of the name, by which the member is found. -/
  rawName : List UInt8
  /-- The name in characters, under which the member is listed. -/
  name : String
  comment : String
  isEncrypted : Bool
  hasCipher : Bool
  method : Nat
  checksum : UInt32
  storedSize : Nat
  size : Nat
  header : Nat
deriving DecidableEq

def plainMember : Decoder (Member × ByteArray) :=
  signed 0x02014B50 do
    Decoder.skip 4
    let flags ← word 2
    let method ← word 2
    Decoder.skip 4
    let checksum ← word 4
    let storedSize ← word 4
    let size ← word 4
    let nameLength ← word 2
    let extraLength ← word 2
    let commentLength ← word 2
    Decoder.skip 8
    let header ← word 4
    let rawName := (← Decoder.take nameLength).toList
    let extra ← Decoder.take extraLength
    let comment := (← Decoder.take commentLength).toList
    let isUtf8 := flags.testBit 11
    let member : Member := {
      rawName
      name := memberText isUtf8 rawName
      comment := memberText isUtf8 comment
      isEncrypted := flags.testBit 0
      hasCipher := false
      method
      checksum := UInt32.ofNat checksum
      storedSize
      size
      header }
    return (member, extra)

end Archive
end ClassAtlas
