import ClassAtlas.Declaration.Basic
import ClassAtlas.Entry.Overload
import ClassAtlas.Entry.Prototype
import ClassAtlas.Inspection

/-!
# Building entries

An entry is built from the declaration of a class under a whitelist. Building
fails when a visible member mentions a type that cannot be read. It also finds
the classes an entry refers to, so that they can be mapped next.
-/

namespace ClassAtlas

/-- The parameters' own names if there is one for each, else numbered ones. -/
def parameterNames (given : Option (List String)) (count : Nat) : List String :=
  match given with
  | some names => if names.length = count then names else numbered
  | none => numbered
where
  numbered : List String :=
    (List.range count).map fun index => "arg" ++ toString index

def parameterDescriptors (params : List SourceType) : String :=
  "(" ++ String.join (params.map SourceType.descriptor) ++ ")"

namespace FieldDecl

def toEntry (registry : Registry) (declaredIn : ClassName) (field : FieldDecl) :
    Except Cause FieldEntry := do
  let type ← SourceType.parse field.type
  return {
    name := field.name
    declaredIn
    type := type.reflectionName
    isStatic := field.isStatic
    targetType := type.translate registry .result }

end FieldDecl

namespace ConstructorDecl

/-- A constructor is a method named `<init>` without a result. -/
def toEntry (registry : Registry) (declaredIn : ClassName) (constructor : ConstructorDecl) :
    Except Cause MethodEntry := do
  let params ← constructor.paramTypes.mapM SourceType.parse
  let modifiers := Prototype.modifierWords constructor.modifiers false
  let spelled := params.map SourceType.sourceName
  return {
    name := MethodEntry.constructorName
    declaredIn
    returns := Primitive.void.keyword
    paramTypes := params.map SourceType.reflectionName
    paramNames := parameterNames constructor.paramNames params.length
    isVarArgs := constructor.isVarArgs
    isStatic := false
    genericPrototype := Prototype.constructor modifiers declaredIn
      (if constructor.isVarArgs then Prototype.spreadLast spelled else spelled)
    plainPrototype := Prototype.constructor modifiers declaredIn spelled
    signature := MethodEntry.constructorName ++ parameterDescriptors params ++
      (SourceType.primitive .void).descriptor
    targetParams := params.map (SourceType.translate registry .parameter)
    targetReturn := .void }

end ConstructorDecl

namespace MethodDecl

/-- The generic parameter types if there is one for each parameter. -/
def genericParams (method : MethodDecl) (spelled : List String) : List String :=
  match method.genericParamTypes with
  | some generic => if generic.length = spelled.length then generic else spelled
  | none => spelled

def toEntry (registry : Registry) (declaredIn : ClassName) (inInterface : Bool)
    (method : MethodDecl) : Except Cause MethodEntry := do
  let params ← method.paramTypes.mapM SourceType.parse
  let returns ← SourceType.parse method.returnType
  let isDefault := inInterface && !method.isAbstract && !method.isStatic
  let modifiers := Prototype.modifierWords method.modifiers isDefault
  let spelled := params.map SourceType.sourceName
  let generic := method.genericParams spelled
  return {
    name := method.name
    declaredIn
    returns := returns.reflectionName
    paramTypes := params.map SourceType.reflectionName
    paramNames := parameterNames method.paramNames params.length
    isVarArgs := method.isVarArgs
    isStatic := method.isStatic
    genericPrototype := Prototype.method modifiers
      (method.genericReturnType.getD returns.sourceName) declaredIn method.name
      (if method.isVarArgs then Prototype.spreadLast generic else generic)
    plainPrototype := Prototype.method modifiers returns.sourceName declaredIn method.name spelled
    signature := method.name ++ parameterDescriptors params ++ returns.descriptor
    targetParams := params.map (SourceType.translate registry .parameter)
    targetReturn := returns.translate registry .result }

end MethodDecl

/-!
# Methods without redeclarations

Visible methods that can be called in the same way are declared once. The first
declaration stands for all, unless it is a bridge and a later one is not.
-/

structure MethodCandidate where
  isBridge : Bool
  entry : MethodEntry

namespace MethodCandidate

/-- Of two methods with one call key the earlier one stands, unless only it is a bridge. -/
def orReal (earlier later : MethodCandidate) : MethodCandidate :=
  if earlier.isBridge && !later.isBridge then later else earlier

/-- Takes up one more method. If there is one with its call key, it is decided in the place
of that one which of both stands. -/
def takeUp (next : MethodCandidate) : List MethodCandidate → List MethodCandidate
  | [] => [next]
  | first :: rest =>
      if first.entry.callKey = next.entry.callKey then first.orReal next :: rest
      else first :: takeUp next rest

def withoutRedeclarations (candidates : List MethodCandidate) : List MethodCandidate :=
  candidates.foldl (fun kept next => next.takeUp kept) []

end MethodCandidate

namespace ClassDecl

def methodCandidates (registry : Registry) (decl : ClassDecl) :
    Except Cause (List MethodCandidate) :=
  decl.visibleMethods.mapM fun method =>
    (method.toEntry registry decl.name decl.isInterface).map (MethodCandidate.mk method.isBridge)

def methodEntries (registry : Registry) (decl : ClassDecl) : Except Cause (List MethodEntry) :=
  (decl.methodCandidates registry).map fun candidates =>
    (MethodCandidate.withoutRedeclarations candidates).map MethodCandidate.entry

/-!
# The entry of a class
-/

def ownType (registry : Registry) (name : ClassName) : TargetType :=
  match Primitive.ofKeyword? name.text with
  | some type => (SourceType.primitive type).translate registry .result
  | none => (SourceType.object name).translate registry .result

/-- Wrapper classes, and classes named by a keyword, stand for primitive values. -/
def isPrimitive (registry : Registry) (name : ClassName) : Bool :=
  (ownType registry name).isPrimitive || (Primitive.ofKeyword? name.text).isSome

def mappedType? (registry : Registry) (name : ClassName) : Option TargetType :=
  (registry name).map (TargetType.mapped name)

def toEntry (registry : Registry) (decl : ClassDecl) : Except Cause ClassEntry := do
  let fields ← decl.visibleFields.mapM (FieldDecl.toEntry registry decl.name)
  let constructors ← decl.visibleConstructors.mapM (ConstructorDecl.toEntry registry decl.name)
  let methods ← decl.methodEntries registry
  let primitive := isPrimitive registry decl.name
  return {
    fullName := decl.name
    shortName := decl.name.shortName
    packageName := decl.name.package?.getD ""
    quotedPackage := decl.name.quotedPackage
    fixedPath := decl.name.fixedPath
    isInterface := decl.isInterface
    isEnum := decl.isEnum
    isPrimitive := primitive
    superclass := decl.superclass
    interfaces := decl.allInterfaces
    targetSupertypes :=
      (decl.superclass.toList ++ decl.allInterfaces).filterMap (mappedType? registry)
    fields
    constructors
    methods
    variants := Overload.groupByName methods
    targetType :=
      if primitive then (ownType registry decl.name).spelling else decl.name.shortName
    aliasName := decl.name.shortName
    useAlias := false }

end ClassDecl

/-!
# References

The classes an entry mentions are its supertypes and those named by the types
of its members, in that order and with repetitions.
-/

namespace ClassEntry

def memberClasses (entry : ClassEntry) : Except Cause (List ClassName) :=
  (entry.sourceTypes.mapM SourceType.parse).map fun types =>
    types.filterMap SourceType.className?

def mentions (entry : ClassEntry) : Except Cause (List ClassName) :=
  entry.memberClasses.map fun named => entry.supertypes ++ named

/-- The admitted classes an entry refers to that are not resolved, in first-seen order. -/
def references (whitelist : Whitelist) (resolved : List ClassName) (entry : ClassEntry) :
    Except Cause (List ClassName) :=
  entry.mentions.map fun names =>
    distinct (names.filter fun name =>
      name ≠ entry.fullName && name ∉ resolved && whitelist.admits name)

end ClassEntry

/-- The entry of a declared class and the classes it refers to. -/
def ClassDecl.build (whitelist : Whitelist) (resolved : List ClassName) (decl : ClassDecl) :
    Except Cause (ClassEntry × List ClassName) := do
  let entry ← decl.toEntry whitelist.registry
  let references ← entry.references whitelist resolved
  return (entry, references)

end ClassAtlas
