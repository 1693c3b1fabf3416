import ClassAtlas.Declaration.Codec
import ClassAtlas.Entry.Basic

/-!
# Entries as structured text

Target types are written by their spelling. A group of overloads says by which
strategy its members are told apart.
-/

namespace ClassAtlas

namespace TargetType

def toJson (type : TargetType) : Json :=
  .string type.spelling

end TargetType

namespace FieldEntry

def toJson (field : FieldEntry) : Json :=
  .object [
    ("name", .string field.name),
    ("declared", field.declaredIn.toJson),
    ("fieldType", .string field.type),
    ("isStatic", .bool field.isStatic),
    ("tsType", field.targetType.toJson)]

end FieldEntry

namespace MethodEntry

def toJson (method : MethodEntry) : Json :=
  .object [
    ("name", .string method.name),
    ("declared", method.declaredIn.toJson),
    ("returns", .string method.returns),
    ("paramTypes", Json.strings method.paramTypes),
    ("paramNames", Json.strings method.paramNames),
    ("isVarArgs", .bool method.isVarArgs),
    ("isStatic", .bool method.isStatic),
    ("genericProto", .string method.genericPrototype),
    ("plainProto", .string method.plainPrototype),
    ("signature", .string method.signature),
    ("tsParamTypes", .array (method.targetParams.map TargetType.toJson)),
    ("tsReturns", method.targetReturn.toJson)]

end MethodEntry

namespace OverloadGroup

def toJson : OverloadGroup → Json
  | single arity method =>
      .object [
        ("strategy", .string "byArity"),
        ("arity", Json.ofNat arity),
        ("method", method.toJson)]
  | byType arity divergentAt methods =>
      .object [
        ("strategy", .string "byType"),
        ("arity", Json.ofNat arity),
        ("divergentAt", Json.ofNat divergentAt),
        ("methods", .array (methods.map MethodEntry.toJson))]
  | union arity methods =>
      .object [
        ("strategy", .string "union"),
        ("arity", Json.ofNat arity),
        ("methods", .array (methods.map MethodEntry.toJson))]

end OverloadGroup

namespace ClassEntry

def variantsToJson (variants : List (String × List OverloadGroup)) : Json :=
  .object (variants.map fun (name, groups) => (name, .array (groups.map OverloadGroup.toJson)))

def toJson (entry : ClassEntry) : Json :=
  .object [
    ("fullName", entry.fullName.toJson),
    ("shortName", .string entry.shortName),
    ("packageName", .string entry.packageName),
    ("quotedPkgName", .string entry.quotedPackage),
    ("fixedPath", .string entry.fixedPath),
    ("isInterface", .bool entry.isInterface),
    ("isEnum", .bool entry.isEnum),
    ("isPrimitive", .bool entry.isPrimitive),
    ("superclass", Json.ofOption ClassName.toJson entry.superclass),
    ("interfaces", .array (entry.interfaces.map ClassName.toJson)),
    ("tsInterfaces", .array (entry.targetSupertypes.map TargetType.toJson)),
    ("fields", .array (entry.fields.map FieldEntry.toJson)),
    ("constructors", .array (entry.constructors.map MethodEntry.toJson)),
    ("methods", .array (entry.methods.map MethodEntry.toJson)),
    ("variants", variantsToJson entry.variants),
    ("tsType", .string entry.targetType),
    ("alias", .string entry.aliasName),
    ("useAlias", .bool entry.useAlias)]

end ClassEntry
end ClassAtlas
