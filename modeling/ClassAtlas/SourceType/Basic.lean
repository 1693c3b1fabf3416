import ClassAtlas.ClassName.Basic
import ClassAtlas.Primitive

/-!
# Types of the mapped library

A type is a primitive or a class under a number of array levels, so no array has
an array for its element. It has three spellings: the descriptor of the virtual
machine, the spelling that reflection reports, and the one of source text.
-/

namespace ClassAtlas

inductive ElementType where
  | primitive (type : Primitive)
  | object (name : ClassName)
deriving DecidableEq

structure SourceType where
  element : ElementType
  depth : Nat
deriving DecidableEq

namespace ElementType

def descriptorChars : ElementType → List Char
  | .primitive type => [type.code]
  | .object name => 'L' :: (name.slashedChars ++ [';'])

/-- The spelling of an element below array brackets, with dots in class names. -/
def dottedDescriptorChars : ElementType → List Char
  | .primitive type => [type.code]
  | .object name => 'L' :: (name.chars ++ [';'])

def nameChars : ElementType → List Char
  | .primitive type => type.keyword.toList
  | .object name => name.chars

def className? : ElementType → Option ClassName
  | .primitive _ => none
  | .object name => some name

end ElementType

namespace SourceType

def primitive (type : Primitive) : SourceType :=
  ⟨.primitive type, 0⟩

def object (name : ClassName) : SourceType :=
  ⟨.object name, 0⟩

def arrayOf (type : SourceType) (levels : Nat) : SourceType :=
  ⟨type.element, type.depth + levels⟩

def isVoid (type : SourceType) : Bool :=
  type = primitive .void

def className? (type : SourceType) : Option ClassName :=
  type.element.className?

def descriptorChars (type : SourceType) : List Char :=
  List.replicate type.depth '[' ++ type.element.descriptorChars

def reflectionChars (type : SourceType) : List Char :=
  if type.depth = 0 then type.element.nameChars
  else List.replicate type.depth '[' ++ type.element.dottedDescriptorChars

def arraySuffix : Nat → List Char
  | 0 => []
  | levels + 1 => '[' :: ']' :: arraySuffix levels

def sourceChars (type : SourceType) : List Char :=
  type.element.nameChars ++ arraySuffix type.depth

/-- The descriptor: `I`, `Ljava/lang/Object;`, `[[J`. -/
def descriptor (type : SourceType) : String :=
  String.ofList type.descriptorChars

/-- The reflection spelling: `int`, `java.lang.Object`, `[Ljava.lang.Object;`. -/
def reflectionName (type : SourceType) : String :=
  String.ofList type.reflectionChars

/-- The source spelling: `java.lang.Object[]`. -/
def sourceName (type : SourceType) : String :=
  String.ofList type.sourceChars

end SourceType
end ClassAtlas
