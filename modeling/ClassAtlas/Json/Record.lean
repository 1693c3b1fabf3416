import ClassAtlas.Json.Basic

/-!
# Reading records

A record has named fields in a fixed order. It is written as an object, where
unknown names are ignored, or as the array of its fields, where fields at the
end may be left out. Which fields may be missing is for the record to say.
-/

namespace ClassAtlas
namespace Json

inductive Repeated where
  | refused
  | lastCounts
deriving DecidableEq

def valuesOf (name : String) (members : List (String × Json)) : List Json :=
  (members.filter fun entry => entry.1 = name).map Prod.snd

def fieldOf? (repeated : Repeated) (members : List (String × Json)) (name : String) :
    Option (Option Json) :=
  match repeated, valuesOf name members with
  | .refused, _ :: _ :: _ => none
  | _, values => some values.getLast?

def fields? (repeated : Repeated) (names : List String) : Json → Option (List (Option Json))
  | .object members => names.mapM (fieldOf? repeated members)
  | .array items =>
      if items.length ≤ names.length then
        some (items.map some ++ List.replicate (names.length - items.length) none)
      else none
  | _ => none

def required? (decode : Json → Option α) : Option Json → Option α
  | none => none
  | some value => decode value

def orElse? (missing : α) (decode : Json → Option α) : Option Json → Option α
  | none => some missing
  | some value => decode value

end Json
end ClassAtlas
