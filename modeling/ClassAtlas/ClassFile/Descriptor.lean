import ClassAtlas.SourceType.Basic

/-!
# Descriptors in class files

A field descriptor spells one type; a method descriptor spells the parameter
types in parentheses and the result type. Both are read generously: what follows
a whole type is ignored, and a class name may hold any characters. They differ
in where a class name ends, so each has a reader of its own.
-/

namespace ClassAtlas
namespace Descriptor

def base? (letter : Char) : Option SourceType :=
  match Primitive.ofCode? letter with
  | some .void => none
  | found => found.map .primitive

def classNamed (path : List Char) : SourceType :=
  .object (.ofPath (String.ofList path))

/-!
# Fields
-/

/-- The class that a text names up to the semicolon at its end. The length of the
name is counted in bytes, so a name with longer characters keeps its semicolon. -/
def class? (text : List Char) : Option SourceType :=
  let size := (String.ofList text).utf8ByteSize
  if text.getLast? = some ';' && 1 < size then some (classNamed (text.take (size - 1)))
  else none

def fieldType? : List Char → Option SourceType
  | [] => none
  | c :: rest =>
      if c = '[' then (fieldType? rest).map (SourceType.arrayOf · 1)
      else if c = 'L' then class? rest
      else base? c

def field? (descriptor : String) : Option SourceType :=
  fieldType? descriptor.toList

/-!
# Methods
-/

/-- The type at the start of a text, and what follows it. A class name ends at the
first semicolon, or else with the text. -/
def type? : List Char → Option (SourceType × List Char)
  | [] => none
  | c :: rest =>
      if c = '[' then
        (type? rest).map fun (type, after) => (type.arrayOf 1, after)
      else if c = 'L' then
        some (classNamed (rest.takeWhile (· ≠ ';')), (rest.dropWhile (· ≠ ';')).tail)
      else (base? c).map fun type => (type, rest)

theorem length_lt_of_type? {text after : List Char} {type : SourceType}
    (found : type? text = some (type, after)) : after.length < text.length := by
  induction text generalizing type after with
  | nil => exact absurd found (by simp [type?])
  | cons c rest ih =>
      unfold type? at found
      split at found
      · rcases Option.map_eq_some_iff.mp found with ⟨⟨inner, behind⟩, readInner, same⟩
        have shorter := ih readInner
        rcases Prod.mk.inj same with ⟨_, rfl⟩
        exact Nat.lt_succ_of_lt shorter
      · split at found
        · rcases Prod.mk.inj (Option.some.inj found) with ⟨_, rfl⟩
          exact Nat.lt_succ_of_le
            ((List.tail_suffix _).trans (List.dropWhile_suffix _)).length_le
        · rcases Option.map_eq_some_iff.mp found with ⟨_, _, same⟩
          rcases Prod.mk.inj same with ⟨_, rfl⟩
          exact Nat.lt_succ_self rest.length

def parameters? : List Char → Option (List SourceType × List Char)
  | [] => none
  | c :: rest =>
      if c = ')' then some ([], rest)
      else
        match _found : type? (c :: rest) with
        | none => none
        | some (type, after) =>
            (parameters? after).map fun (others, behind) => (type :: others, behind)
termination_by text => text.length
decreasing_by exact length_lt_of_type? _found

def result? (text : List Char) : Option SourceType :=
  if text.head? = some Primitive.void.code then some (.primitive .void)
  else (type? text).map Prod.fst

def method? (descriptor : String) : Option (List SourceType × SourceType) :=
  match descriptor.toList with
  | '(' :: rest => do
      let (parameters, after) ← parameters? rest
      return (parameters, ← result? after)
  | _ => none

end Descriptor
end ClassAtlas
