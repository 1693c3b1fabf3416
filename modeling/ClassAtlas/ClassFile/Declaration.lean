import ClassAtlas.ClassFile.Basic
import ClassAtlas.ClassName.Nested
import ClassAtlas.Declaration.Basic
import ClassAtlas.Entry.Mentions
import ClassAtlas.Failure.LoadError

/-!
# Declarations from class files

A class file is turned into the declaration that reflection would report. The
file must declare the class it was found for, under any of the spellings of a
nested class. Constructors and the static initialiser are methods with names of
their own in the file.
-/

namespace ClassAtlas
namespace ClassFile

def classAt (file : ClassFile) (index : Nat) : Except Defect String :=
  match file.pool.className? index with
  | some path => .ok path
  | none => .error (.badClassReference index)

def textAt (file : ClassFile) (index : Nat) : Except Defect String :=
  match file.pool.text? index with
  | some text => .ok text
  | none => .error (.badText index)

/-- Reflection reports no superclass for an interface. -/
def superclassName (file : ClassFile) : Except Defect (Option ClassName) :=
  if file.superclass = 0 || file.flags.isInterface then .ok none
  else (file.classAt file.superclass).map fun path => some (ClassName.ofPath path)

def interfaceNames (file : ClassFile) : Except Defect (List ClassName) :=
  file.interfaces.mapM fun index => (file.classAt index).map ClassName.ofPath

def fieldDecl (file : ClassFile) (field : Field) : Except Defect FieldDecl := do
  return {
    name := ← file.textAt field.name
    modifiers := field.flags.fieldModifiers
    type := field.type.reflectionName
    isSynthetic := field.flags.isSynthetic }

inductive Member where
  | constructor (decl : ConstructorDecl)
  | method (decl : MethodDecl)
  | initializer

namespace Member

def constructor? : Member → Option ConstructorDecl
  | constructor decl => some decl
  | _ => none

def method? : Member → Option MethodDecl
  | method decl => some decl
  | _ => none

end Member

def constructorDecl (flags : AccessFlags) (parameters : List SourceType) : ConstructorDecl where
  modifiers := flags.methodModifiers
  paramTypes := parameters.map SourceType.reflectionName
  paramNames := none
  isVarArgs := flags.isVarArgs
  isSynthetic := flags.isSynthetic

def methodDecl (name : String) (flags : AccessFlags) (parameters : List SourceType)
    (result : SourceType) : MethodDecl where
  name := name
  modifiers := flags.methodModifiers
  paramTypes := parameters.map SourceType.reflectionName
  returnType := result.reflectionName
  paramNames := none
  isVarArgs := flags.isVarArgs
  isSynthetic := flags.isSynthetic
  isBridge := flags.isBridge
  genericParamTypes := none
  genericReturnType := none

/-- The descriptor of the static initialiser is not even looked at. -/
def member (file : ClassFile) (method : Method) : Except Defect Member := do
  let name ← file.textAt method.name
  if name = "<clinit>" then
    return .initializer
  let descriptor ← file.textAt method.descriptor
  match Descriptor.method? descriptor with
  | none => throw (.badDescriptor descriptor)
  | some (parameters, result) =>
      if name = "<init>" then
        return .constructor (constructorDecl method.flags parameters)
      else
        return .method (methodDecl name method.flags parameters result)

def describe (file : ClassFile) (name : ClassName) : Except Defect ClassDecl := do
  let superclass ← file.superclassName
  let interfaces ← file.interfaceNames
  let fields ← file.fields.mapM file.fieldDecl
  let members ← file.methods.mapM file.member
  return {
    name
    modifiers := file.flags.classModifiers
    isInterface := file.flags.isInterface
    isEnum := file.flags.isEnum
    superclass
    interfaces
    fields
    constructors := members.filterMap Member.constructor?
    methods := members.filterMap Member.method? }

/-- The declaration of a class from the file that was found for it, under the
spelling in which it was asked for. -/
def declare (file : ClassFile) (name : ClassName) : Except Defect ClassDecl := do
  let path ← file.classAt file.thisClass
  if name.binaryNames.contains path then
    return { ← file.describe (ClassName.ofPath path) with name }
  else
    throw (.declares path)

/-- The declaration under the name that the file itself declares. -/
def ownDecl? (file : ClassFile) : Option ClassDecl :=
  match file.classAt file.thisClass with
  | .error _ => none
  | .ok path => (file.describe (ClassName.ofPath path)).toOption

theorem exists_ownDecl_of_declare {file : ClassFile} {name : ClassName} {decl : ClassDecl}
    (declared : file.declare name = .ok decl) :
    ∃ own, file.ownDecl? = some own ∧ decl = { own with name } := by
  unfold declare at declared
  unfold ownDecl?
  cases found : file.classAt file.thisClass with
  | error defect => rw [found] at declared; exact of_error_eq_ok declared
  | ok path =>
      rw [found] at declared
      simp only [bind, Except.bind] at declared
      split at declared
      · cases described : file.describe (ClassName.ofPath path) with
        | error defect => rw [described] at declared; exact of_error_eq_ok declared
        | ok own =>
            rw [described] at declared
            exact ⟨own, by simp [described, Except.toOption], (Except.ok.inj declared).symm⟩
      · exact of_error_eq_ok declared

end ClassFile

namespace ClassDecl

def ofClassFile (name : ClassName) (bytes : ByteArray) : Except LoadError ClassDecl :=
  match ClassFile.read? bytes with
  | none => .error (.malformed name (.unreadable "not a class file"))
  | some file => (file.declare name).mapError (.malformed name)

def namesInClassFile (bytes : ByteArray) : List ClassName :=
  match (ClassFile.read? bytes).bind ClassFile.ownDecl? with
  | none => []
  | some own => ClassName.object :: own.mentioned

theorem mem_mentioned_of_rename {decl : ClassDecl} {name other : ClassName}
    (mem : other ∈ { decl with name }.mentioned) :
    other = ClassName.object ∨ other ∈ decl.mentioned := by
  rcases List.mem_append.mp mem with isSuper | inTypes
  · rcases List.mem_append.mp isSuper with inSuperclass | inInterfaces
    · exact Or.inr (List.mem_append_left _ (List.mem_append_left _ inSuperclass))
    · rcases mem_allInterfaces_iff.mp inInterfaces with listed | parentless
      · have inAll : other ∈ decl.allInterfaces := mem_allInterfaces_iff.mpr (Or.inl listed)
        exact Or.inr (List.mem_append_left _ (List.mem_append_right _ inAll))
      · exact Or.inl parentless.right.right.right
  · exact Or.inr (List.mem_append_right _ inTypes)

theorem mem_namesInClassFile {name other : ClassName} {bytes : ByteArray} {decl : ClassDecl}
    (read : ofClassFile name bytes = .ok decl) (mem : other ∈ decl.mentioned) :
    other ∈ namesInClassFile bytes := by
  unfold ofClassFile at read
  unfold namesInClassFile
  split at read
  · exact of_error_eq_ok read
  · next file found =>
      cases declared : file.declare name with
      | error defect => rw [declared] at read; exact of_error_eq_ok read
      | ok answer =>
          rw [declared] at read
          obtain rfl : answer = decl := Except.ok.inj read
          rcases ClassFile.exists_ownDecl_of_declare declared with ⟨own, ownFound, rfl⟩
          simp only [found, Option.bind_some, ownFound]
          rcases mem_mentioned_of_rename mem with isObject | inOwn
          · exact List.mem_cons.mpr (Or.inl isObject)
          · exact List.mem_cons.mpr (Or.inr inOwn)

end ClassDecl
end ClassAtlas
