import ClassAtlas.Deflate.PrefixCode

/-!
# Reading a compressed stream

A compressed stream is read bit by bit, the least significant bit of a byte
first, while its output grows.
-/

namespace ClassAtlas
namespace Deflate

inductive Stop where
  | exhausted
  | corrupt
deriving DecidableEq

structure Progress where
  position : Nat
  output : ByteArray

end Deflate

abbrev Inflater :=
  ReaderT ByteArray (StateT Deflate.Progress (Except Deflate.Stop))

namespace Inflater

def corrupt : Inflater α :=
  throw Deflate.Stop.corrupt

def bit : Inflater Nat :=
  fun bytes => do
    let progress ← get
    match bytes[progress.position / 8]? with
    | none => throw .exhausted
    | some byte =>
        set { progress with position := progress.position + 1 }
        return (byte.toNat >>> (progress.position % 8)) % 2

def number : Nat → Inflater Nat
  | 0 => return 0
  | bits + 1 => do
      let low ← bit
      let high ← number bits
      return low + 2 * high

def alignToByte : Inflater Unit :=
  modify fun progress => { progress with position := (progress.position + 7) / 8 * 8 }

def emit (byte : UInt8) : Inflater Unit :=
  modify fun progress => { progress with output := progress.output.push byte }

/-- Repeats what was put out a distance ago. The source may reach into the copy. -/
def copy (distance : Nat) : Nat → Inflater Unit
  | 0 => return ()
  | length + 1 => do
      let progress ← get
      if distance = 0 || progress.output.size < distance then corrupt
      else
        match progress.output[progress.output.size - distance]? with
        | none => corrupt
        | some byte =>
            emit byte
            copy distance length

def verbatim : Nat → Inflater Unit
  | 0 => return ()
  | length + 1 => do
      emit (UInt8.ofNat (← number 8))
      verbatim length

/-- The symbol whose string comes next, given the counts of the lengths that are
left, the bits read so far, the first string of the present length less one bit,
and the number of shorter strings. -/
def symbolAmong (symbols : Array Nat) : List Nat → Nat → Nat → Nat → Inflater Nat
  | [], _, _, _ => corrupt
  | count :: longer, read, first, shorter => do
      let read := 2 * read + (← bit)
      let first := 2 * first
      if read < first + count then
        match symbols[shorter + (read - first)]? with
        | some symbol => return symbol
        | none => corrupt
      else symbolAmong symbols longer read (first + count) (shorter + count)

def symbol (code : PrefixCode) : Inflater Nat :=
  symbolAmong code.symbols code.counts 0 0 0

def ofOption (value : Option α) : Inflater α :=
  match value with
  | some value => return value
  | none => corrupt

end Inflater
end ClassAtlas
