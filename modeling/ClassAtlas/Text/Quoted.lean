import ClassAtlas.Text.Hidden

/-!
# Quoted texts

A text is quoted for a message so that it can be told apart from its
surroundings: double quotes around it, a backslash before quotes and
backslashes, short escapes for the common controls, and the code point in
hexadecimal for every other hidden character.
-/

namespace ClassAtlas
namespace Text

def hexDigits (n : Nat) : List Char :=
  Nat.toDigits 16 n

def escapeQuoted (c : Char) : List Char :=
  if c = '\x00' then ['\\', '0']
  else if c = '\t' then ['\\', 't']
  else if c = '\r' then ['\\', 'r']
  else if c = '\n' then ['\\', 'n']
  else if c = '"' then ['\\', '"']
  else if c = '\\' then ['\\', '\\']
  else if isHidden c then '\\' :: 'u' :: '\x7b' :: (hexDigits c.toNat ++ ['\x7d'])
  else [c]

def quoted (text : String) : String :=
  String.ofList ('"' :: (text.toList.flatMap escapeQuoted ++ ['"']))

end Text
end ClassAtlas
