import ClassAtlas.ClassName.Basic
import ClassAtlas.Text.Split

/-!
# Prototypes

The text of a member as source code declares it: modifiers in their canonical
order, the result, the qualified name and the parameters.
-/

namespace ClassAtlas

namespace Prototype

def modifierOrder : List String :=
  ["public", "protected", "private", "abstract", "static", "final", "transient", "volatile",
    "synchronized", "native", "strictfp"]

/-- The known modifiers of a member, and `default` for a method body in an interface. -/
def modifierWords (modifiers : List String) (isDefault : Bool) : List String :=
  modifierOrder.filter modifiers.contains ++ if isDefault then ["default"] else []

def parameterList (params : List String) : String :=
  "(" ++ ",".intercalate params ++ ")"

def leading (words : List String) : String :=
  String.join (words.map fun word => word ++ " ")

def method (modifiers : List String) (returns : String) (declaredIn : ClassName)
    (name : String) (params : List String) : String :=
  leading (modifiers ++ [returns]) ++ declaredIn.text ++ "." ++ name ++ parameterList params

def constructor (modifiers : List String) (declaredIn : ClassName) (params : List String) :
    String :=
  leading modifiers ++ declaredIn.text ++ parameterList params

def spread (param : String) : String :=
  match Text.beforeEnd? ['[', ']'] param.toList with
  | some element => String.ofList (element ++ ['.', '.', '.'])
  | none => param

def spreadLast : List String → List String
  | [] => []
  | [last] => [spread last]
  | first :: rest => first :: spreadLast rest

end Prototype
end ClassAtlas
