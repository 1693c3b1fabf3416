import ClassAtlas.Bytes.Word

/-!
# Decoders

A decoder reads a value from a position of a byte string on and moves the
position behind it; it fails where the bytes end too early or make no sense.
-/

namespace ClassAtlas

abbrev Decoder :=
  ReaderT ByteArray (StateT Nat Option)

namespace Decoder

def ofOption (value : Option α) : Decoder α :=
  fun _ position => value.map fun value => (value, position)

def position : Decoder Nat :=
  fun _ position => some (position, position)

def remaining : Decoder Nat :=
  fun bytes position => some (bytes.size - position, position)

def take (length : Nat) : Decoder ByteArray :=
  fun bytes position =>
    (Bytes.slice? bytes position length).map fun part => (part, position + length)

def wordIn (order : ByteOrder) (width : Nat) : Decoder Nat := do
  return order.number (← take width).toList

def word (width : Nat) : Decoder Nat :=
  wordIn .mostSignificantFirst width

def skip (length : Nat) : Decoder Unit := do
  let _ ← take length

def repeated (item : Decoder α) : Nat → Decoder (List α)
  | 0 => return []
  | count + 1 => do
      let first ← item
      let rest ← repeated item count
      return first :: rest

def counted (item : Decoder α) : Decoder (List α) := do
  repeated item (← word 2)

def readAt? (decoder : Decoder α) (bytes : ByteArray) (position : Nat) : Option α :=
  (decoder bytes position).map Prod.fst

def read? (decoder : Decoder α) (bytes : ByteArray) : Option α :=
  readAt? decoder bytes 0

end Decoder
end ClassAtlas
