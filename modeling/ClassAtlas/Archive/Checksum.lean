/-!
# Checksums of archives

The checksum of a byte string is the remainder of a polynomial division over
bits, least significant bit first, with all bits inverted before and after.
-/

namespace ClassAtlas
namespace Checksum

def polynomial : UInt32 :=
  0xEDB88320

def divided (remainder : UInt32) : Nat → UInt32
  | 0 => remainder
  | bits + 1 =>
      divided
        (if remainder &&& 1 = 1 then (remainder >>> 1) ^^^ polynomial else remainder >>> 1) bits

def table : Array UInt32 :=
  (Array.range 256).map fun byte => divided (UInt32.ofNat byte) 8

def step (remainder : UInt32) (byte : UInt8) : UInt32 :=
  (table[((remainder ^^^ byte.toUInt32) &&& 0xFF).toNat]?).getD 0 ^^^ (remainder >>> 8)

def ofBytes (bytes : ByteArray) : UInt32 :=
  bytes.foldl step 0xFFFFFFFF ^^^ 0xFFFFFFFF

end Checksum
end ClassAtlas
