import ClassAtlas.ClassName.Basic

/-!
# Types of the generated declarations

Parameters have permissive types that take raw and boxed values, written with an
ending `_t`; results have the tightest type there is. A mapped class is named
together with the spelling under which it is generated.
-/

namespace ClassAtlas

inductive TargetType where
  | void
  /-- A type that cannot be expressed; it is written as `void`. -/
  | unsupported
  | boolean
  | number
  | string
  | longValue
  | booleanArgument
  | byteArgument
  | charArgument
  | doubleArgument
  | floatArgument
  | integerArgument
  | longArgument
  | shortArgument
  | numberArgument
  | stringArgument
  | anyObject
  | mapped (name : ClassName) (spelling : String)
  | arrayArgument (element : TargetType)
  | array (element : TargetType)
deriving DecidableEq

namespace TargetType

def spelling : TargetType → String
  | .void => "void"
  | .unsupported => "void"
  | .boolean => "boolean"
  | .number => "number"
  | .string => "string"
  | .longValue => "longValue_t"
  | .booleanArgument => "boolean_t"
  | .byteArgument => "byte_t"
  | .charArgument => "char_t"
  | .doubleArgument => "double_t"
  | .floatArgument => "float_t"
  | .integerArgument => "integer_t"
  | .longArgument => "long_t"
  | .shortArgument => "short_t"
  | .numberArgument => "number_t"
  | .stringArgument => "string_t"
  | .anyObject => "object_t"
  | .mapped _ spelled => spelled
  | .arrayArgument element => "array_t<" ++ element.spelling ++ ">"
  | .array element => element.spelling ++ "[]"

/-- Types whose values are primitive at run time. -/
def isPrimitive : TargetType → Bool
  | .boolean | .number | .string | .longValue => true
  | _ => false

def isVoid : TargetType → Bool
  | .void | .unsupported => true
  | _ => false

def arrays : Nat → TargetType → TargetType
  | 0, type => type
  | levels + 1, type => .array (arrays levels type)

def mentioned? : TargetType → Option ClassName
  | .mapped name _ => some name
  | .arrayArgument element => element.mentioned?
  | .array element => element.mentioned?
  | _ => none

/-- Class references that are not kept become `object_t`. -/
def retain (keep : ClassName → Bool) : TargetType → TargetType
  | .mapped name spelled => if keep name then .mapped name spelled else .anyObject
  | .arrayArgument element => .arrayArgument (element.retain keep)
  | .array element => .array (element.retain keep)
  | type => type

/-- Class references with a new spelling take it. -/
def respell (newSpelling? : ClassName → Option String) : TargetType → TargetType
  | .mapped name spelled => .mapped name ((newSpelling? name).getD spelled)
  | .arrayArgument element => .arrayArgument (element.respell newSpelling?)
  | .array element => .array (element.respell newSpelling?)
  | type => type

/-!
# Families

What values a parameter type takes at run time. Two types tell a call apart only
when they take values of different families.
-/

inductive Family where
  | any
  | void
  | boolean
  | numeric
  | text
  | array
  | object (name : ClassName)
deriving DecidableEq

def family : TargetType → Family
  | .anyObject => .any
  | .void | .unsupported => .void
  | .boolean | .booleanArgument => .boolean
  | .number | .longValue | .byteArgument | .doubleArgument | .floatArgument
  | .integerArgument | .longArgument | .shortArgument | .numberArgument => .numeric
  | .string | .stringArgument | .charArgument => .text
  | .arrayArgument _ | .array _ => .array
  | .mapped name _ => .object name

/-- Whether no value is taken by both types. -/
def separates (left right : TargetType) : Bool :=
  left.family ≠ .any && right.family ≠ .any && left.family ≠ right.family

end TargetType
end ClassAtlas
