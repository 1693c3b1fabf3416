import ClassAtlas.ClassName.Basic

/-!
# Class declarations

The declared metadata of a class as a source reports it: names, modifiers and
types as text, before anything is translated or left out.
-/

namespace ClassAtlas

structure FieldDecl where
  name : String
  modifiers : List String
  type : String
  isSynthetic : Bool
deriving DecidableEq

structure ConstructorDecl where
  modifiers : List String
  paramTypes : List String
  paramNames : Option (List String)
  isVarArgs : Bool
  isSynthetic : Bool
deriving DecidableEq

structure MethodDecl where
  name : String
  modifiers : List String
  paramTypes : List String
  returnType : String
  paramNames : Option (List String)
  isVarArgs : Bool
  isSynthetic : Bool
  /-- A forwarder that the compiler adds for an override with another result. -/
  isBridge : Bool
  genericParamTypes : Option (List String)
  genericReturnType : Option String
deriving DecidableEq

structure ClassDecl where
  name : ClassName
  modifiers : List String
  isInterface : Bool
  isEnum : Bool
  superclass : Option ClassName
  interfaces : List ClassName
  fields : List FieldDecl
  constructors : List ConstructorDecl
  methods : List MethodDecl
deriving DecidableEq

/-!
# Visible members

Only public members are mapped, and none that the compiler made up; a bridge
counts until the method it forwards to is known.
-/

namespace FieldDecl

def isPublic (field : FieldDecl) : Bool :=
  field.modifiers.contains "public"

def isStatic (field : FieldDecl) : Bool :=
  field.modifiers.contains "static"

def isVisible (field : FieldDecl) : Bool :=
  field.isPublic && !field.isSynthetic

theorem isVisible_iff {field : FieldDecl} :
    field.isVisible = true ↔ "public" ∈ field.modifiers ∧ field.isSynthetic = false := by
  simp [isVisible, isPublic]

end FieldDecl

namespace ConstructorDecl

def isPublic (constructor : ConstructorDecl) : Bool :=
  constructor.modifiers.contains "public"

def isVisible (constructor : ConstructorDecl) : Bool :=
  constructor.isPublic && !constructor.isSynthetic

theorem isVisible_iff {constructor : ConstructorDecl} :
    constructor.isVisible = true ↔
      "public" ∈ constructor.modifiers ∧ constructor.isSynthetic = false := by
  simp [isVisible, isPublic]

end ConstructorDecl

namespace MethodDecl

def isPublic (method : MethodDecl) : Bool :=
  method.modifiers.contains "public"

def isStatic (method : MethodDecl) : Bool :=
  method.modifiers.contains "static"

def isAbstract (method : MethodDecl) : Bool :=
  method.modifiers.contains "abstract"

def isVisible (method : MethodDecl) : Bool :=
  method.isPublic && (method.isBridge || !method.isSynthetic)

theorem isVisible_iff {method : MethodDecl} :
    method.isVisible = true ↔
      "public" ∈ method.modifiers ∧ (method.isBridge = true ∨ method.isSynthetic = false) := by
  simp [isVisible, isPublic]

end MethodDecl

namespace ClassDecl

def isPublic (decl : ClassDecl) : Bool :=
  decl.modifiers.contains "public"

def visibleFields (decl : ClassDecl) : List FieldDecl :=
  decl.fields.filter FieldDecl.isVisible

def visibleConstructors (decl : ClassDecl) : List ConstructorDecl :=
  decl.constructors.filter ConstructorDecl.isVisible

def visibleMethods (decl : ClassDecl) : List MethodDecl :=
  decl.methods.filter MethodDecl.isVisible

/-- An interface without a parent still ascends to the root class. -/
def allInterfaces (decl : ClassDecl) : List ClassName :=
  if decl.isInterface && decl.interfaces.isEmpty && decl.name ≠ ClassName.object then
    [ClassName.object]
  else decl.interfaces

variable {decl : ClassDecl}

theorem mem_visibleFields_iff {field : FieldDecl} :
    field ∈ decl.visibleFields ↔
      field ∈ decl.fields ∧ "public" ∈ field.modifiers ∧ field.isSynthetic = false := by
  rw [visibleFields, List.mem_filter, FieldDecl.isVisible_iff]

theorem mem_visibleConstructors_iff {constructor : ConstructorDecl} :
    constructor ∈ decl.visibleConstructors ↔
      constructor ∈ decl.constructors ∧ "public" ∈ constructor.modifiers ∧
        constructor.isSynthetic = false := by
  rw [visibleConstructors, List.mem_filter, ConstructorDecl.isVisible_iff]

theorem mem_visibleMethods_iff {method : MethodDecl} :
    method ∈ decl.visibleMethods ↔
      method ∈ decl.methods ∧ "public" ∈ method.modifiers ∧
        (method.isBridge = true ∨ method.isSynthetic = false) := by
  rw [visibleMethods, List.mem_filter, MethodDecl.isVisible_iff]

theorem mem_allInterfaces_iff {name : ClassName} :
    name ∈ decl.allInterfaces ↔ name ∈ decl.interfaces ∨
      decl.isInterface = true ∧ decl.interfaces = [] ∧ decl.name ≠ .object ∧ name = .object := by
  unfold allInterfaces
  split
  · next parentless =>
      simp only [Bool.and_eq_true, List.isEmpty_iff, decide_eq_true_iff] at parentless
      rcases parentless with ⟨⟨isInterface, none⟩, notRoot⟩
      simp [isInterface, none, notRoot]
  · next ordinary =>
      simp only [Bool.and_eq_true, List.isEmpty_iff, decide_eq_true_iff] at ordinary
      refine (or_iff_left ?_).symm
      intro parentless
      exact ordinary ⟨⟨parentless.left, parentless.right.left⟩, parentless.right.right.left⟩

end ClassDecl
end ClassAtlas
