import ClassAtlas.SourceType.Basic
import ClassAtlas.TargetType

/-!
# Counterparts of types

Primitives, their wrapper classes and three classes of the core library have
fixed counterparts among the target types, which depend on the position in a
call. Any other class is named if a registry knows it and is an arbitrary object
if not.
-/

namespace ClassAtlas

inductive Position where
  | parameter
  | result
deriving DecidableEq

/-- The generated names of the classes that are mapped. -/
abbrev Registry :=
  ClassName → Option String

namespace Registry

def empty : Registry :=
  fun _ => none

end Registry

namespace Counterpart

def ofPrimitive : Position → Primitive → TargetType
  | .parameter, .boolean => .booleanArgument
  | .parameter, .byte => .byteArgument
  | .parameter, .char => .charArgument
  | .parameter, .double => .doubleArgument
  | .parameter, .float => .floatArgument
  | .parameter, .int => .integerArgument
  | .parameter, .long => .longArgument
  | .parameter, .short => .shortArgument
  | .parameter, .void => .void
  | .result, .boolean => .boolean
  | .result, .char => .string
  -- A 64-bit value does not fit a number of the target.
  | .result, .long => .longValue
  | .result, .void => .void
  | .result, .byte | .result, .double | .result, .float | .result, .int | .result, .short =>
      .number

/-- The classes of the core library, wrappers apart, with a counterpart of their own. -/
def ofCoreClass? (position : Position) (name : ClassName) : Option TargetType :=
  if name.text = "java.lang.Number" then
    some (match position with
      | .parameter => .numberArgument
      | .result => .number)
  else if name.text = "java.lang.String" then
    some (match position with
      | .parameter => .stringArgument
      | .result => .string)
  else if name = ClassName.object then some .anyObject
  else none

def ofRegistry (registry : Registry) (name : ClassName) : TargetType :=
  match registry name with
  | some spelling => .mapped name spelling
  | none => .anyObject

def ofClass (registry : Registry) (position : Position) (name : ClassName) : TargetType :=
  match Primitive.ofWrapper? name.text with
  | some type => ofPrimitive position type
  | none => (ofCoreClass? position name).getD (ofRegistry registry name)

def ofElement (registry : Registry) (position : Position) : ElementType → TargetType
  | .primitive type => ofPrimitive position type
  | .object name => ofClass registry position name

end Counterpart

/-- A parameter may be an array of one level only; a result may have any number. -/
def SourceType.translate (registry : Registry) (position : Position) (type : SourceType) :
    TargetType :=
  let element := Counterpart.ofElement registry position type.element
  match position with
  | .result => TargetType.arrays type.depth element
  | .parameter =>
      match type.depth with
      | 0 => element
      | 1 => .arrayArgument element
      | _ + 2 => .unsupported

end ClassAtlas
