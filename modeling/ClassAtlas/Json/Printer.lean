import ClassAtlas.Json.Basic
import ClassAtlas.Text.Quoted

/-!
# Writing a value

Two layouts: one line without spaces, and one member or item a line indented by
two spaces a level. Strings escape quotes, backslashes and controls, and nothing
else.
-/

namespace ClassAtlas
namespace Json

def escape (c : Char) : List Char :=
  if c = '"' then ['\\', '"']
  else if c = '\\' then ['\\', '\\']
  else if c = '\x08' then ['\\', 'b']
  else if c = '\x0c' then ['\\', 'f']
  else if c = '\n' then ['\\', 'n']
  else if c = '\r' then ['\\', 'r']
  else if c = '\t' then ['\\', 't']
  else if c.toNat < 16 then ['\\', 'u', '0', '0', '0'] ++ Text.hexDigits c.toNat
  else if c.toNat < 32 then ['\\', 'u', '0', '0'] ++ Text.hexDigits c.toNat
  else [c]

def stringChars (text : String) : List Char :=
  '"' :: (text.toList.flatMap escape ++ ['"'])

def unreadableChars : List Char :=
  ['"', '\\', 'u', 'd', '8', '0', '0', '"']

mutual

def compactChars : Json → List Char
  | .null => ['n', 'u', 'l', 'l']
  | .bool true => ['t', 'r', 'u', 'e']
  | .bool false => ['f', 'a', 'l', 's', 'e']
  | .number literal => literal.chars
  | .string text => stringChars text
  | .array items => '[' :: (compactItems items ++ [']'])
  | .object members => '\x7b' :: (compactMembers members ++ ['\x7d'])
  | .unreadable => unreadableChars

def compactItems : List Json → List Char
  | [] => []
  | [item] => compactChars item
  | item :: rest => compactChars item ++ ',' :: compactItems rest

def compactMembers : List (String × Json) → List Char
  | [] => []
  | [(name, value)] => stringChars name ++ ':' :: compactChars value
  | (name, value) :: rest =>
      stringChars name ++ ':' :: (compactChars value ++ ',' :: compactMembers rest)

end

def compact (value : Json) : String :=
  String.ofList (compactChars value)

def newLine (level : Nat) : List Char :=
  '\n' :: List.replicate (2 * level) ' '

mutual

def prettyChars (level : Nat) : Json → List Char
  | .null => ['n', 'u', 'l', 'l']
  | .bool true => ['t', 'r', 'u', 'e']
  | .bool false => ['f', 'a', 'l', 's', 'e']
  | .number literal => literal.chars
  | .string text => stringChars text
  | .array [] => ['[', ']']
  | .array items => '[' :: (prettyItems (level + 1) items ++ (newLine level ++ [']']))
  | .object [] => ['\x7b', '\x7d']
  | .object members =>
      '\x7b' :: (prettyMembers (level + 1) members ++ (newLine level ++ ['\x7d']))
  | .unreadable => unreadableChars

def prettyItems (level : Nat) : List Json → List Char
  | [] => []
  | [item] => newLine level ++ prettyChars level item
  | item :: rest => newLine level ++ (prettyChars level item ++ ',' :: prettyItems level rest)

def prettyMembers (level : Nat) : List (String × Json) → List Char
  | [] => []
  | [(name, value)] =>
      newLine level ++ (stringChars name ++ ':' :: ' ' :: prettyChars level value)
  | (name, value) :: rest =>
      newLine level ++ (stringChars name ++ ':' :: ' ' :: (prettyChars level value ++
        ',' :: prettyMembers level rest))

end

def pretty (value : Json) : String :=
  String.ofList (prettyChars 0 value)

end Json
end ClassAtlas
