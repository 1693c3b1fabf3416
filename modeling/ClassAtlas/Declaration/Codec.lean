import ClassAtlas.Declaration.Basic
import ClassAtlas.Json.Record

/-!
# Declarations as structured text

Every field of a declaration is written, an absent one as null. When a
declaration is read, only names, field types and return types must be given;
modifiers and members default to none and flags to false.
-/

namespace ClassAtlas

namespace Json

def text? (value : Option Json) : Option String :=
  required? string? value

def textList? (value : Option Json) : Option (List String) :=
  orElse? [] (list? string?) value

def flag? (value : Option Json) : Option Bool :=
  orElse? false bool? value

def optionalText? (value : Option Json) : Option (Option String) :=
  orElse? none (nullable? string?) value

def optionalTextList? (value : Option Json) : Option (Option (List String)) :=
  orElse? none (nullable? (list? string?)) value

end Json

namespace FieldDecl

def fieldNames : List String :=
  ["name", "modifiers", "fieldType", "isSynthetic"]

def toJson (field : FieldDecl) : Json :=
  .object [
    ("name", .string field.name),
    ("modifiers", Json.strings field.modifiers),
    ("fieldType", .string field.type),
    ("isSynthetic", .bool field.isSynthetic)]

def ofJson? (value : Json) : Option FieldDecl := do
  match ← Json.fields? .refused fieldNames value with
  | [name, modifiers, type, isSynthetic] =>
      return {
        name := ← Json.text? name
        modifiers := ← Json.textList? modifiers
        type := ← Json.text? type
        isSynthetic := ← Json.flag? isSynthetic }
  | _ => none

end FieldDecl

namespace ConstructorDecl

def fieldNames : List String :=
  ["modifiers", "paramTypes", "paramNames", "isVarArgs", "isSynthetic"]

def toJson (constructor : ConstructorDecl) : Json :=
  .object [
    ("modifiers", Json.strings constructor.modifiers),
    ("paramTypes", Json.strings constructor.paramTypes),
    ("paramNames", Json.ofOption Json.strings constructor.paramNames),
    ("isVarArgs", .bool constructor.isVarArgs),
    ("isSynthetic", .bool constructor.isSynthetic)]

def ofJson? (value : Json) : Option ConstructorDecl := do
  match ← Json.fields? .refused fieldNames value with
  | [modifiers, paramTypes, paramNames, isVarArgs, isSynthetic] =>
      return {
        modifiers := ← Json.textList? modifiers
        paramTypes := ← Json.textList? paramTypes
        paramNames := ← Json.optionalTextList? paramNames
        isVarArgs := ← Json.flag? isVarArgs
        isSynthetic := ← Json.flag? isSynthetic }
  | _ => none

end ConstructorDecl

namespace MethodDecl

def fieldNames : List String :=
  ["name", "modifiers", "paramTypes", "returnType", "paramNames", "isVarArgs", "isSynthetic",
    "isBridge", "genericParamTypes", "genericReturnType"]

def toJson (method : MethodDecl) : Json :=
  .object [
    ("name", .string method.name),
    ("modifiers", Json.strings method.modifiers),
    ("paramTypes", Json.strings method.paramTypes),
    ("returnType", .string method.returnType),
    ("paramNames", Json.ofOption Json.strings method.paramNames),
    ("isVarArgs", .bool method.isVarArgs),
    ("isSynthetic", .bool method.isSynthetic),
    ("isBridge", .bool method.isBridge),
    ("genericParamTypes", Json.ofOption Json.strings method.genericParamTypes),
    ("genericReturnType", Json.ofOption .string method.genericReturnType)]

def ofJson? (value : Json) : Option MethodDecl := do
  match ← Json.fields? .refused fieldNames value with
  | [name, modifiers, paramTypes, returnType, paramNames, isVarArgs, isSynthetic, isBridge,
      genericParamTypes, genericReturnType] =>
      return {
        name := ← Json.text? name
        modifiers := ← Json.textList? modifiers
        paramTypes := ← Json.textList? paramTypes
        returnType := ← Json.text? returnType
        paramNames := ← Json.optionalTextList? paramNames
        isVarArgs := ← Json.flag? isVarArgs
        isSynthetic := ← Json.flag? isSynthetic
        isBridge := ← Json.flag? isBridge
        genericParamTypes := ← Json.optionalTextList? genericParamTypes
        genericReturnType := ← Json.optionalText? genericReturnType }
  | _ => none

end MethodDecl

namespace ClassName

def toJson (name : ClassName) : Json :=
  .string name.text

/-- A name in metadata is taken as it stands. -/
def ofJson? (value : Json) : Option ClassName :=
  value.string?.map ClassName.mk

end ClassName

namespace ClassDecl

def fieldNames : List String :=
  ["name", "modifiers", "isInterface", "isEnum", "superclass", "interfaces", "fields",
    "constructors", "methods"]

def toJson (decl : ClassDecl) : Json :=
  .object [
    ("name", decl.name.toJson),
    ("modifiers", Json.strings decl.modifiers),
    ("isInterface", .bool decl.isInterface),
    ("isEnum", .bool decl.isEnum),
    ("superclass", Json.ofOption ClassName.toJson decl.superclass),
    ("interfaces", .array (decl.interfaces.map ClassName.toJson)),
    ("fields", .array (decl.fields.map FieldDecl.toJson)),
    ("constructors", .array (decl.constructors.map ConstructorDecl.toJson)),
    ("methods", .array (decl.methods.map MethodDecl.toJson))]

def ofJson? (value : Json) : Option ClassDecl := do
  match ← Json.fields? .refused fieldNames value with
  | [name, modifiers, isInterface, isEnum, superclass, interfaces, fields, constructors,
      methods] =>
      return {
        name := ← Json.required? ClassName.ofJson? name
        modifiers := ← Json.textList? modifiers
        isInterface := ← Json.flag? isInterface
        isEnum := ← Json.flag? isEnum
        superclass := ← Json.orElse? none (Json.nullable? ClassName.ofJson?) superclass
        interfaces := ← Json.orElse? [] (Json.list? ClassName.ofJson?) interfaces
        fields := ← Json.orElse? [] (Json.list? FieldDecl.ofJson?) fields
        constructors := ← Json.orElse? [] (Json.list? ConstructorDecl.ofJson?) constructors
        methods := ← Json.orElse? [] (Json.list? MethodDecl.ofJson?) methods }
  | _ => none

end ClassDecl
end ClassAtlas
