import ClassAtlas.Bytes.Decoder
import ClassAtlas.ClassFile.Descriptor
import ClassAtlas.ClassFile.AccessFlags
import ClassAtlas.ClassFile.Text

/-!
# Class files

A class file holds, after the version of its format, a pool of constants and,
referring to it by index, the class, its supertypes and its members. Attributes are
passed over. References are kept as they are; only the type of a field is looked up
while the file is read.
-/

namespace ClassAtlas

inductive Constant where
  | text (value : String)
  | classReference (index : Nat)
  | other
deriving DecidableEq

/-- The constants in order of their indices, which start at one. -/
abbrev ConstantPool :=
  Array Constant

namespace ConstantPool

def get? (pool : ConstantPool) (index : Nat) : Option Constant :=
  if index = 0 then none else pool[index - 1]?

def text? (pool : ConstantPool) (index : Nat) : Option String :=
  match pool.get? index with
  | some (.text value) => some value
  | _ => none

def className? (pool : ConstantPool) (index : Nat) : Option String :=
  match pool.get? index with
  | some (.classReference name) => pool.text? name
  | _ => none

end ConstantPool

namespace ClassFile

structure Field where
  flags : AccessFlags
  name : Nat
  descriptor : Nat
  type : SourceType
deriving DecidableEq

structure Method where
  flags : AccessFlags
  name : Nat
  descriptor : Nat
deriving DecidableEq

end ClassFile

structure ClassFile where
  pool : ConstantPool
  flags : AccessFlags
  thisClass : Nat
  /-- Zero for a class without a superclass. -/
  superclass : Nat
  interfaces : List Nat
  fields : List ClassFile.Field
  methods : List ClassFile.Method
deriving DecidableEq

namespace ClassFile

/-!
# Reading
-/

def accessFlags : Decoder AccessFlags := do
  return ⟨UInt16.ofNat (← Decoder.word 2)⟩

def text : Decoder Constant := do
  let bytes ← Decoder.take (← Decoder.word 2)
  return .text (← Decoder.ofOption (text? bytes))

def skipped (length : Nat) : Decoder Constant := do
  Decoder.skip length
  return .other

def methodHandle : Decoder Constant := do
  let kind ← Decoder.word 1
  if kind = 0 || 9 < kind then
    failure
  skipped 2

/-- A constant and the number of indices it takes: one, or two for a number of
eight bytes. -/
def constant : Decoder (Constant × Nat) := do
  match ← Decoder.word 1 with
  | 1 => return (← text, 1)
  | 3 | 4 | 9 | 10 | 11 | 12 | 17 | 18 => return (← skipped 4, 1)
  | 5 | 6 => return (← skipped 8, 2)
  | 7 => return (.classReference (← Decoder.word 2), 1)
  | 8 | 16 | 19 | 20 => return (← skipped 2, 1)
  | 15 => return (← methodHandle, 1)
  | _ => failure

/-- Constants until so many indices are taken. The second index of a constant
that takes two refers to nothing. -/
def constants : Nat → Decoder (List Constant)
  | 0 => return []
  | indices + 1 => do
      let (first, width) ← constant
      if width = 1 then
        return first :: (← constants indices)
      else
        return first :: .other :: (← constants (indices - 1))

/-- The count before the pool is one more than the indices, so it is never zero. -/
def constantPool : Decoder ConstantPool := do
  let count ← Decoder.word 2
  if count = 0 then
    failure
  return (← constants (count - 1)).toArray

def attributes : Decoder Unit := do
  let _ ← Decoder.counted do
    Decoder.skip 2
    Decoder.skip (← Decoder.word 4)

def field (pool : ConstantPool) : Decoder Field := do
  let flags ← accessFlags
  let name ← Decoder.word 2
  let descriptor ← Decoder.word 2
  let type ← Decoder.ofOption ((pool.text? descriptor).bind Descriptor.field?)
  attributes
  return { flags, name, descriptor, type }

def method : Decoder Method := do
  let flags ← accessFlags
  let name ← Decoder.word 2
  let descriptor ← Decoder.word 2
  attributes
  return { flags, name, descriptor }

def magic : Nat :=
  0xCAFEBABE

/-- The versions of the format that can be read. From version 56 on the minor number
is zero, or marks a file that uses features still under review. -/
def isKnownVersion (major minor : Nat) : Bool :=
  45 ≤ major && major ≤ 69 && (major < 56 || minor = 0 || minor = 0xFFFF)

def file : Decoder ClassFile := do
  if (← Decoder.word 4) ≠ magic then
    failure
  let minor ← Decoder.word 2
  let major ← Decoder.word 2
  if !isKnownVersion major minor then
    failure
  let pool ← constantPool
  let flags ← accessFlags
  let thisClass ← Decoder.word 2
  let superclass ← Decoder.word 2
  let interfaces ← Decoder.counted (Decoder.word 2)
  let fields ← Decoder.counted (field pool)
  let methods ← Decoder.counted method
  attributes
  return { pool, flags, thisClass, superclass, interfaces, fields, methods }

def read? (bytes : ByteArray) : Option ClassFile :=
  Decoder.read? file bytes

end ClassFile
end ClassAtlas
