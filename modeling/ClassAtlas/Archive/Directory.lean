import ClassAtlas.Archive.Record

/-!
# Directories of archives

The record at the end of an archive says where its directory starts and how many
members it lists. Where the numbers of this record are too small, a locator before
it leads to another one with wider numbers. An archive on several disks cannot be
read.
-/

namespace ClassAtlas
namespace Archive

structure Directory where
  /-- How far the bytes before the archive shift everything in it. -/
  shift : Nat
  start : Nat
  count : Nat

/-!
# The end record
-/

structure EndRecord where
  disk : Nat
  directoryDisk : Nat
  countHere : Nat
  count : Nat
  /-- How long the directory is. Only a full number matters: the entries are counted. -/
  size : Nat
  start : Nat

/-- The comment behind the record must be there. -/
def endRecord : Decoder EndRecord :=
  signed 0x06054B50 do
    let disk ← word 2
    let directoryDisk ← word 2
    let countHere ← word 2
    let count ← word 2
    let size ← word 4
    let start ← word 4
    Decoder.skip (← word 2)
    return { disk, directoryDisk, countHere, count, size, start }

/-- The directory of an end record: the first one that starts where the record says,
or later, because bytes before the archive only make positions larger. An archive
without members has none. -/
def EndRecord.directory? (record : EndRecord) (bytes : ByteArray) (position : Nat) :
    Option Directory :=
  if record.disk ≠ record.directoryDisk then none
  else if record.count = 0 then
    let shift := position - record.start
    some { shift, start := shift + record.start, count := record.countHere }
  else
    let entry := fun place => Decoder.readAt? (signed 0x02014B50 (return ())) bytes place
    (firstFrom? entry record.start (placesBefore position record.start)).map fun (start, _) =>
      { shift := start - record.start, start, count := record.countHere }

/-!
# The wide end record
-/

structure Locator where
  directoryDisk : Nat
  record : Nat
  disks : Nat

def locator : Decoder Locator :=
  signed 0x07064B50 do
    let directoryDisk ← word 4
    let record ← word 8
    let disks ← word 4
    return { directoryDisk, record, disks }

/-- A number of the record is the largest one, which says that the true one is longer. -/
def EndRecord.isFull (record : EndRecord) : Bool :=
  record.count = 0xFFFF || record.size = 0xFFFFFFFF || record.start = 0xFFFFFFFF

def EndRecord.locator? (record : EndRecord) (bytes : ByteArray) (position : Nat) :
    Option Locator :=
  if record.isFull && 20 ≤ position then
    Decoder.readAt? locator bytes (position - 20)
  else none

structure WideEndRecord where
  length : Nat
  disk : Nat
  directoryDisk : Nat
  countHere : Nat
  count : Nat
  start : Nat

def wideEndRecord : Decoder WideEndRecord :=
  signed 0x06064B50 do
    let length ← word 8
    Decoder.skip 4
    let disk ← word 4
    let directoryDisk ← word 4
    let countHere ← word 8
    let count ← word 8
    Decoder.skip 8
    let start ← word 8
    return { length, disk, directoryDisk, countHere, count, start }

namespace WideEndRecord

/-- The record reaches up to its locator, agrees with it, and leaves room for as many
entries as it counts. -/
def fits (record : WideEndRecord) (locator : Locator) (position limit : Nat) : Bool :=
  44 ≤ record.length && record.length + 12 = limit - position &&
    record.directoryDisk = locator.directoryDisk &&
    46 * record.count + record.start ≤ position

def isSound (record : WideEndRecord) : Bool :=
  record.countHere ≤ record.count && record.disk = record.directoryDisk

end WideEndRecord

/-- The directory of the wide end record between the position that its locator states
and the locator itself. -/
def Locator.directory? (locator : Locator) (bytes : ByteArray) (limit : Nat) :
    Option Directory :=
  let fitting := fun place =>
    (Decoder.readAt? wideEndRecord bytes place).filter fun record =>
      record.fits locator place limit
  if 1 < locator.disks then none
  else
    match firstFrom? fitting locator.record (placesBefore limit locator.record) with
    | none => none
    | some (position, record) =>
        let shift := position - locator.record
        if record.isSound then
          some { shift, start := shift + record.start, count := record.count }
        else none

def directory? (bytes : ByteArray) (position : Nat) : Option Directory := do
  let record ← Decoder.readAt? endRecord bytes position
  match record.locator? bytes position with
  | some locator => locator.directory? bytes (position - 20)
  | none => record.directory? bytes position

end Archive
end ClassAtlas
