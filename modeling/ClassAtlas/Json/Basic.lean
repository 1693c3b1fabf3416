import ClassAtlas.Json.Number

/-!
# Structured texts

The values of the interchange format. The members of an object keep their order
and may repeat a name, because a reader of a known record tells a repeated
member from a single one. A string is written by code units, and not all strings
of code units are texts; those that are not can only be ignored.
-/

namespace ClassAtlas

inductive Json where
  | null
  | bool (value : Bool)
  | number (literal : Json.Number)
  | string (text : String)
  | array (items : List Json)
  | object (members : List (String × Json))
  /-- A string that is no text, or an object with such a name. It keeps to the
  grammar, but nothing can be read from it. -/
  | unreadable

namespace Json

def ofString : Option String → Json
  | some text => .string text
  | none => .unreadable

def ofMembers (members : List (Option String × Json)) : Json :=
  match members.mapM fun (name, value) => name.map fun name => (name, value) with
  | some members => .object members
  | none => .unreadable

def ofNat (n : Nat) : Json :=
  .number (Number.ofNat n)

def strings (texts : List String) : Json :=
  .array (texts.map .string)

def ofOption (encode : α → Json) : Option α → Json
  | none => .null
  | some value => encode value

/-!
# Reading single values

Each reader accepts one shape and nothing else; there is no conversion between
shapes.
-/

def string? : Json → Option String
  | .string text => some text
  | _ => none

def bool? : Json → Option Bool
  | .bool value => some value
  | _ => none

def nat? : Json → Option Nat
  | .number literal => literal.toNat?
  | _ => none

def list? (decode : Json → Option α) : Json → Option (List α)
  | .array items => items.mapM decode
  | _ => none

/-- Null reads as absent, everything else must decode. -/
def nullable? (decode : Json → Option α) : Json → Option (Option α)
  | .null => some none
  | value => (decode value).map some

/-- The last member of that name. -/
def member? (name : String) : Json → Option Json
  | .object members => (members.reverse.find? fun entry => entry.1 = name).map Prod.snd
  | _ => none

end Json
end ClassAtlas
