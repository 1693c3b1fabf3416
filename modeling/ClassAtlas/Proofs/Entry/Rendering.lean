import ClassAtlas.Entry.Mentions

/-!
# How entries render their members

The entry of a member is determined by its name and by the types its
declaration spells: it stores their reflection spellings, their signature and
their translations. A constructor is rendered like a method without a result.
-/

namespace ClassAtlas

theorem isReadable_of_parse {raw : String} {type : SourceType}
    (parsed : SourceType.parse raw = .ok type) : type.IsReadable :=
  SourceType.isReadable_of_parse? (parse?_of_parse parsed)

theorem isReadable_of_mem_mapM_parse {raws : List String} {types : List SourceType}
    (parsed : raws.mapM SourceType.parse = .ok types) {type : SourceType} (mem : type ∈ types) :
    type.IsReadable := by
  rcases exists_of_mem_mapM parsed mem with ⟨raw, _, found⟩
  exact isReadable_of_parse found

/-!
# Rendered members
-/

/-- The entry is the one of a method so named, with these parameters and this result. -/
structure MethodEntry.Renders (registry : Registry) (entry : MethodEntry) (spelled : String)
    (params : List SourceType) (result : SourceType) : Prop where
  name : entry.name = spelled
  paramTypes : entry.paramTypes = params.map SourceType.reflectionName
  returns : entry.returns = result.reflectionName
  signature : entry.signature = spelled ++ parameterDescriptors params ++ result.descriptor
  targetParams : entry.targetParams = params.map (SourceType.translate registry .parameter)
  targetReturn : entry.targetReturn = result.translate registry .result

theorem FieldDecl.renders_of_toEntry {registry : Registry} {declaredIn : ClassName}
    {field : FieldDecl} {entry : FieldEntry}
    (built : field.toEntry registry declaredIn = .ok entry) :
    ∃ type, SourceType.parse field.type = .ok type ∧ entry.type = type.reflectionName ∧
      entry.targetType = type.translate registry .result := by
  unfold FieldDecl.toEntry at built
  rcases exists_of_bind_eq_ok built with ⟨type, parsed, made⟩
  rcases Except.ok.inj made with rfl
  exact ⟨type, parsed, rfl, rfl⟩

theorem ConstructorDecl.renders_of_toEntry {registry : Registry} {declaredIn : ClassName}
    {constructor : ConstructorDecl} {entry : MethodEntry}
    (built : constructor.toEntry registry declaredIn = .ok entry) :
    ∃ params, constructor.paramTypes.mapM SourceType.parse = .ok params ∧
      entry.Renders registry MethodEntry.constructorName params (SourceType.primitive .void) := by
  unfold ConstructorDecl.toEntry at built
  rcases exists_of_bind_eq_ok built with ⟨params, parsed, made⟩
  rcases Except.ok.inj made with rfl
  exact ⟨params, parsed, ⟨rfl, rfl, rfl, rfl, rfl, rfl⟩⟩

theorem MethodDecl.renders_of_toEntry {registry : Registry} {declaredIn : ClassName}
    {inInterface : Bool} {method : MethodDecl} {entry : MethodEntry}
    (built : method.toEntry registry declaredIn inInterface = .ok entry) :
    ∃ params result, method.paramTypes.mapM SourceType.parse = .ok params ∧
      SourceType.parse method.returnType = .ok result ∧
      entry.Renders registry method.name params result := by
  unfold MethodDecl.toEntry at built
  rcases exists_of_bind_eq_ok built with ⟨params, parsed, later⟩
  rcases exists_of_bind_eq_ok later with ⟨result, read, made⟩
  rcases Except.ok.inj made with rfl
  exact ⟨params, result, parsed, read, ⟨rfl, rfl, rfl, rfl, rfl, rfl⟩⟩

end ClassAtlas
