import ClassAtlas.Grouping
import ClassAtlas.SourceType.Parser
import ClassAtlas.TargetType

/-!
# Entries

An entry is the mapped record of one class: its names, its supertypes, its
visible members with their types in both worlds, and its methods grouped into
call shapes. Source types are kept in the spelling that reflection reports.
-/

namespace ClassAtlas

structure FieldEntry where
  name : String
  declaredIn : ClassName
  type : String
  isStatic : Bool
  targetType : TargetType
deriving DecidableEq

/-- A method, or a constructor under the name `<init>`. -/
structure MethodEntry where
  name : String
  declaredIn : ClassName
  returns : String
  paramTypes : List String
  paramNames : List String
  isVarArgs : Bool
  isStatic : Bool
  genericPrototype : String
  plainPrototype : String
  /-- The name and the descriptor: `wait(JI)V`. -/
  signature : String
  targetParams : List TargetType
  targetReturn : TargetType
deriving DecidableEq

namespace MethodEntry

def constructorName : String :=
  "<init>"

def isConstructor (method : MethodEntry) : Bool :=
  method.name = constructorName

def arity (method : MethodEntry) : Nat :=
  method.paramTypes.length

/-- The fewest arguments of a call; a variable tail may be empty. -/
def minArity (method : MethodEntry) : Nat :=
  if method.isVarArgs then method.arity - 1 else method.arity

/-- The signature without the result. Declarations that differ in nothing but
their result share it. -/
def callKey (method : MethodEntry) : String :=
  match Text.splitLast? ')' method.signature.toList with
  | some (before, _) => String.ofList (before ++ [')'])
  | none => method.signature

def targetTypes (method : MethodEntry) : List TargetType :=
  method.targetParams ++ [method.targetReturn]

def mapTypes (change : TargetType → TargetType) (method : MethodEntry) : MethodEntry :=
  { method with
    targetParams := method.targetParams.map change
    targetReturn := change method.targetReturn }

def sourceTypes (method : MethodEntry) : List String :=
  method.paramTypes ++ [method.returns]

end MethodEntry

inductive OverloadGroup where
  | single (arity : Nat) (method : MethodEntry)
  /-- Methods told apart by the type of an argument; all agree before that position. -/
  | byType (arity : Nat) (divergentAt : Nat) (methods : List MethodEntry)
  | union (arity : Nat) (methods : List MethodEntry)
deriving DecidableEq

namespace OverloadGroup

def arity : OverloadGroup → Nat
  | single arity _ => arity
  | byType arity _ _ => arity
  | union arity _ => arity

def methods : OverloadGroup → List MethodEntry
  | single _ method => [method]
  | byType _ _ methods => methods
  | union _ methods => methods

def minArity (group : OverloadGroup) : Nat :=
  ((group.methods.map MethodEntry.minArity).min?).getD group.arity

/-- A key that is stable across runs: `2`, `2@1` or `2|union`. -/
def key : OverloadGroup → String
  | single arity _ => toString arity
  | byType arity divergentAt _ => toString arity ++ "@" ++ toString divergentAt
  | union arity _ => toString arity ++ "|union"

def isUnion : OverloadGroup → Bool
  | union _ _ => true
  | _ => false

def mapMethods (change : MethodEntry → MethodEntry) : OverloadGroup → OverloadGroup
  | single arity method => single arity (change method)
  | byType arity divergentAt methods => byType arity divergentAt (methods.map change)
  | union arity methods => union arity (methods.map change)

end OverloadGroup

structure ClassEntry where
  fullName : ClassName
  shortName : String
  packageName : String
  quotedPackage : String
  fixedPath : String
  isInterface : Bool
  isEnum : Bool
  isPrimitive : Bool
  superclass : Option ClassName
  interfaces : List ClassName
  targetSupertypes : List TargetType
  fields : List FieldEntry
  constructors : List MethodEntry
  methods : List MethodEntry
  variants : List (String × List OverloadGroup)
  targetType : String
  aliasName : String
  useAlias : Bool
deriving DecidableEq

namespace ClassEntry

def signatures (entry : ClassEntry) : List String :=
  entry.methods.map MethodEntry.signature

def supertypes (entry : ClassEntry) : List ClassName :=
  entry.superclass.toList ++ entry.interfaces

def sourceTypes (entry : ClassEntry) : List String :=
  entry.fields.map FieldEntry.type ++
    (entry.constructors ++ entry.methods).flatMap MethodEntry.sourceTypes

def groupedMethods (entry : ClassEntry) : List MethodEntry :=
  entry.variants.flatMap fun (_, groups) => groups.flatMap OverloadGroup.methods

def targetTypes (entry : ClassEntry) : List TargetType :=
  entry.targetSupertypes ++ entry.fields.map FieldEntry.targetType ++
    (entry.constructors ++ entry.methods ++ entry.groupedMethods).flatMap
      MethodEntry.targetTypes

def mapTypes (change : TargetType → TargetType) (entry : ClassEntry) : ClassEntry :=
  { entry with
    targetSupertypes := entry.targetSupertypes.map change
    fields := entry.fields.map fun field => { field with targetType := change field.targetType }
    constructors := entry.constructors.map (MethodEntry.mapTypes change)
    methods := entry.methods.map (MethodEntry.mapTypes change)
    variants := entry.variants.map fun (name, groups) =>
      (name, groups.map (OverloadGroup.mapMethods (MethodEntry.mapTypes change))) }

end ClassEntry
end ClassAtlas
