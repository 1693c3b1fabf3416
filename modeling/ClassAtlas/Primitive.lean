/-!
# Primitive types

The eight primitive types and `void`, each with a keyword and a one-letter code.
-/

namespace ClassAtlas

inductive Primitive where
  | boolean
  | byte
  | char
  | double
  | float
  | int
  | long
  | short
  | void
deriving DecidableEq

namespace Primitive

def all : List Primitive :=
  [.boolean, .byte, .char, .double, .float, .int, .long, .short, .void]

def keyword : Primitive → String
  | .boolean => "boolean"
  | .byte => "byte"
  | .char => "char"
  | .double => "double"
  | .float => "float"
  | .int => "int"
  | .long => "long"
  | .short => "short"
  | .void => "void"

def code : Primitive → Char
  | .boolean => 'Z'
  | .byte => 'B'
  | .char => 'C'
  | .double => 'D'
  | .float => 'F'
  | .int => 'I'
  | .long => 'J'
  | .short => 'S'
  | .void => 'V'

def wrapper : Primitive → String
  | .boolean => "java.lang.Boolean"
  | .byte => "java.lang.Byte"
  | .char => "java.lang.Character"
  | .double => "java.lang.Double"
  | .float => "java.lang.Float"
  | .int => "java.lang.Integer"
  | .long => "java.lang.Long"
  | .short => "java.lang.Short"
  | .void => "java.lang.Void"

def ofKeyword? (word : String) : Option Primitive :=
  all.find? fun primitive => primitive.keyword = word

def ofCode? (letter : Char) : Option Primitive :=
  all.find? fun primitive => primitive.code = letter

def ofWrapper? (className : String) : Option Primitive :=
  all.find? fun primitive => primitive.wrapper = className

theorem mem_all (primitive : Primitive) : primitive ∈ all := by
  cases primitive <;> decide

theorem ofKeyword?_keyword (primitive : Primitive) :
    ofKeyword? primitive.keyword = some primitive := by
  cases primitive <;> decide

theorem ofCode?_code (primitive : Primitive) : ofCode? primitive.code = some primitive := by
  cases primitive <;> decide

theorem keyword_of_ofKeyword? {word : String} {type : Primitive}
    (found : ofKeyword? word = some type) : type.keyword = word := by
  simpa using List.find?_some found

theorem ofKeyword?_eq_none_iff {word : String} :
    ofKeyword? word = none ↔ ∀ type : Primitive, type.keyword ≠ word := by
  simp [ofKeyword?, mem_all]

theorem code_of_ofCode? {letter : Char} {type : Primitive}
    (found : ofCode? letter = some type) : type.code = letter := by
  simpa using List.find?_some found

theorem ofWrapper?_wrapper (primitive : Primitive) :
    ofWrapper? primitive.wrapper = some primitive := by
  cases primitive <;> decide

end Primitive
end ClassAtlas
