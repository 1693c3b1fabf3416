/-!
# Access flags

A class file states the properties of a class and of its members in sixteen
bits, whose meaning depends on what they belong to. Modifiers are those that
source text has words for, in the order in which they are listed.
-/

namespace ClassAtlas

structure AccessFlags where
  bits : UInt16
deriving DecidableEq

namespace AccessFlags

def has (flags : AccessFlags) (bit : UInt16) : Bool :=
  flags.bits &&& bit ≠ 0

def words (flags : AccessFlags) (table : List (UInt16 × String)) : List String :=
  (table.filter fun entry => flags.has entry.1).map Prod.snd

def isInterface (flags : AccessFlags) : Bool :=
  flags.has 0x0200

def isEnum (flags : AccessFlags) : Bool :=
  flags.has 0x4000

def isSynthetic (flags : AccessFlags) : Bool :=
  flags.has 0x1000

/-- Of methods; on a field the bit means something else. -/
def isBridge (flags : AccessFlags) : Bool :=
  flags.has 0x0040

def isVarArgs (flags : AccessFlags) : Bool :=
  flags.has 0x0080

/-- An interface is always abstract, so the word is left out for it. -/
def classModifiers (flags : AccessFlags) : List String :=
  if flags.isInterface then
    flags.words [(0x0001, "public"), (0x0010, "final"), (0x0200, "interface")]
  else flags.words [(0x0001, "public"), (0x0400, "abstract"), (0x0010, "final")]

def fieldModifiers (flags : AccessFlags) : List String :=
  flags.words [
    (0x0001, "public"), (0x0002, "private"), (0x0004, "protected"), (0x0008, "static"),
    (0x0010, "final"), (0x0040, "volatile"), (0x0080, "transient")]

def methodModifiers (flags : AccessFlags) : List String :=
  flags.words [
    (0x0001, "public"), (0x0002, "private"), (0x0004, "protected"), (0x0008, "static"),
    (0x0010, "final"), (0x0020, "synchronized"), (0x0100, "native"), (0x0400, "abstract"),
    (0x0800, "strictfp")]

end AccessFlags
end ClassAtlas
