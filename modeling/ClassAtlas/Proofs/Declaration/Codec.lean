import ClassAtlas.Declaration.Codec
import ClassAtlas.Proofs.Json.Records

/-!
# Declarations are read back

Every declaration is read back from what is written for it, whatever its texts hold and
whichever of its optional parts are given.
-/

namespace ClassAtlas

namespace Json

theorem carries_strings : Carries strings (list? string?) :=
  carries_string.list

/-!
# Fields of a record
-/

@[simp] theorem text?_string (text : String) : text? (some (.string text)) = some text :=
  rfl

@[simp] theorem flag?_bool (value : Bool) : flag? (some (.bool value)) = some value :=
  rfl

@[simp] theorem textList?_strings (texts : List String) :
    textList? (some (strings texts)) = some texts :=
  carries_strings.reads texts

@[simp] theorem optionalText?_ofOption (text : Option String) :
    optionalText? (some (ofOption .string text)) = some text :=
  (carries_string.nullable rfl).reads text

@[simp] theorem optionalTextList?_ofOption (texts : Option (List String)) :
    optionalTextList? (some (ofOption strings texts)) = some texts :=
  (carries_strings.nullable rfl).reads texts

end Json

/-!
# Members
-/

namespace FieldDecl

theorem carries : Json.Carries toJson ofJson? where
  textual := by
    intro field
    refine .object ?_
    simp only [List.forall_mem_cons]
    exact ⟨.string _, Json.carries_strings.textual _, .string _, .bool _, List.forall_mem_nil _⟩
  reads := by
    intro field
    have fields : Json.fields? .refused fieldNames field.toJson = some _ :=
      Json.fields?_object rfl (by decide)
    simp [ofJson?, fields]

end FieldDecl

namespace ConstructorDecl

theorem carries : Json.Carries toJson ofJson? where
  textual := by
    intro constructor
    refine .object ?_
    simp only [List.forall_mem_cons]
    exact ⟨Json.carries_strings.textual _, Json.carries_strings.textual _,
      (Json.carries_strings.nullable rfl).textual _, .bool _, .bool _, List.forall_mem_nil _⟩
  reads := by
    intro constructor
    have fields : Json.fields? .refused fieldNames constructor.toJson = some _ :=
      Json.fields?_object rfl (by decide)
    simp [ofJson?, fields]

end ConstructorDecl

namespace MethodDecl

theorem carries : Json.Carries toJson ofJson? where
  textual := by
    intro method
    refine .object ?_
    simp only [List.forall_mem_cons]
    exact ⟨.string _, Json.carries_strings.textual _, Json.carries_strings.textual _, .string _,
      (Json.carries_strings.nullable rfl).textual _, .bool _, .bool _, .bool _,
      (Json.carries_strings.nullable rfl).textual _, (Json.carries_string.nullable rfl).textual _,
      List.forall_mem_nil _⟩
  reads := by
    intro method
    have fields : Json.fields? .refused fieldNames method.toJson = some _ :=
      Json.fields?_object rfl (by decide)
    simp [ofJson?, fields]

end MethodDecl

/-!
# Classes
-/

namespace ClassName

theorem carries : Json.Carries toJson ofJson? :=
  ⟨fun _ => .string _, fun _ => rfl⟩

end ClassName

namespace ClassDecl

theorem carries : Json.Carries toJson ofJson? where
  textual := by
    intro decl
    refine .object ?_
    simp only [List.forall_mem_cons]
    exact ⟨ClassName.carries.textual _, Json.carries_strings.textual _, .bool _, .bool _,
      (ClassName.carries.nullable rfl).textual _, ClassName.carries.list.textual _,
      FieldDecl.carries.list.textual _, ConstructorDecl.carries.list.textual _,
      MethodDecl.carries.list.textual _, List.forall_mem_nil _⟩
  reads := by
    intro decl
    have fields : Json.fields? .refused fieldNames decl.toJson = some _ :=
      Json.fields?_object rfl (by decide)
    simp [ofJson?, fields, Json.required?, Json.orElse?, ClassName.carries.reads,
      (ClassName.carries.nullable rfl).reads, ClassName.carries.list.reads,
      FieldDecl.carries.list.reads, ConstructorDecl.carries.list.reads,
      MethodDecl.carries.list.reads]

end ClassDecl
end ClassAtlas
