import ClassAtlas.Archive.Directory
import ClassAtlas.Archive.ExtraField
import ClassAtlas.Deflate.Inflate
import ClassAtlas.Failure.FileError

/-!
# Archives

An archive ends with a directory of its members and a record that leads to the
directory. The content of a member is stored as it is or compressed, and has a
checksum.
-/

namespace ClassAtlas

structure Archive where
  bytes : ByteArray
  /-- Last member first: of two with one name the later counts. -/
  members : List Archive.Member

inductive MemberFault where
  | inaccessible
  | broken (error : FileError)
deriving DecidableEq

namespace Archive

/-!
# Members
-/

/-- The archive whose end record is at a given position. -/
def endingAt? (bytes : ByteArray) (position : Nat) : Option Archive := do
  let directory ← directory? bytes position
  let entries := Decoder.repeated (member directory.shift) directory.count
  let members ← Decoder.readAt? entries bytes directory.start
  return { bytes, members := members.reverse }

def endingBefore? (bytes : ByteArray) : Nat → Option Archive
  | 0 => none
  | position + 1 =>
      match endingAt? bytes position with
      | some archive => some archive
      | none => endingBefore? bytes position

def read? (bytes : ByteArray) : Option Archive :=
  endingBefore? bytes bytes.size

def memberNamed? (archive : Archive) (rawName : List UInt8) : Option Member :=
  archive.members.find? fun member => member.rawName = rawName

def member? (archive : Archive) (name : String) : Option Member :=
  archive.memberNamed? name.toUTF8.data.toList

/-- What is selected by the names of the members that count. -/
def select (archive : Archive) (choose : String → Option α) : List α :=
  archive.members.filterMap fun member =>
    (choose member.name).filter fun _ =>
      archive.memberNamed? member.rawName = some member

/-!
# Contents
-/

/-- The lengths of the name and of what follows it in the header of a member. -/
def headerRest : Decoder (Nat × Nat) :=
  signed 0x04034B50 do
    Decoder.skip 22
    let nameLength ← word 2
    let extraLength ← word 2
    return (nameLength, extraLength)

def stored? (archive : Archive) (member : Member) : Option ByteArray := do
  let (nameLength, extraLength) ← Decoder.readAt? headerRest archive.bytes member.header
  let start := member.header + 30 + nameLength + extraLength
  return archive.bytes.extract start (min (start + member.storedSize) archive.bytes.size)

def decoded (member : Member) (stored : ByteArray) : Except FileError ByteArray :=
  if member.method = 0 then .ok stored
  else
    match Deflate.inflate stored with
    | .ok content => .ok content
    | .error .exhausted => .error .incomplete
    | .error .corrupt => .error .corrupt

def checked (member : Member) (content : ByteArray) : Except FileError ByteArray :=
  if Checksum.ofBytes content = member.checksum then .ok content else .error .checksum

/-- Only what is not encrypted and stored by one of two methods can be had. -/
def isAccessible (member : Member) : Bool :=
  !member.isEncrypted && !member.hasCipher && (member.method = 0 || member.method = 8)

def content (archive : Archive) (member : Member) : Except MemberFault ByteArray :=
  match archive.stored? member with
  | none => .error .inaccessible
  | some stored =>
      if isAccessible member then
        (decoded member stored >>= checked member).mapError .broken
      else .error .inaccessible

def contents (archive : Archive) : List ByteArray :=
  archive.members.filterMap fun member => (archive.content member).toOption

theorem mem_contents_of_member {archive : Archive} {name : String} {found : Member}
    {bytes : ByteArray} (isMember : archive.member? name = some found)
    (isContent : archive.content found = .ok bytes) : bytes ∈ archive.contents :=
  List.mem_filterMap.mpr
    ⟨found, List.mem_of_find?_eq_some isMember, by simp [isContent, Except.toOption]⟩

end Archive
end ClassAtlas
