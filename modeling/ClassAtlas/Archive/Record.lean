import ClassAtlas.Bytes.Decoder

/-!
# Records of archives

Words in an archive have their least significant byte first. A record starts with
a signature, by which it can also be found.
-/

namespace ClassAtlas
namespace Archive

def word (width : Nat) : Decoder Nat :=
  Decoder.wordIn .leastSignificantFirst width

def signed (signature : Nat) (record : Decoder α) : Decoder α := do
  if (← word 4) = signature then record else failure

def firstFrom? (found? : Nat → Option α) (position : Nat) : Nat → Option (Nat × α)
  | 0 => none
  | count + 1 =>
      match found? position with
      | some value => some (position, value)
      | none => firstFrom? found? (position + 1) count

/-- How many positions there are from one on where a signature ends before a limit. -/
def placesBefore (limit position : Nat) : Nat :=
  limit - 3 - position

end Archive
end ClassAtlas
