import ClassAtlas.Proofs.ClassFile.FieldDescriptors
import ClassAtlas.Proofs.ClassFile.Reading

/-!
# Members of class files and their entries

What a member of a class file declares has an entry if its descriptor is proper. A method,
and a constructor without a result, has its name and its descriptor in the file for a
signature. The type that is stored for a field spells the descriptor of the field exactly
if each of its characters takes one byte.
-/

namespace ClassAtlas

namespace Descriptor

/-- A field descriptor with slashes in its class name, which reads back. -/
structure IsProperField (text : List Char) (type : SourceType) : Prop where
  denotes : Denotes text type
  slashed : '.' ∉ text
  proper : type.IsProper

structure IsProperMethod (text : List Char) (params : List SourceType) (result : SourceType) :
    Prop where
  denotes : DenotesMethod text params result
  slashed : '.' ∉ text
  proper : ∀ type ∈ params ++ [result], type.IsProper

theorem IsProperField.parse {text : List Char} {type : SourceType}
    (proper : IsProperField text type) : SourceType.parse type.reflectionName = .ok type :=
  proper.proper.parse fun _ => proper.denotes.element_ne_void

theorem IsProperMethod.parse {text : List Char} {params : List SourceType} {result : SourceType}
    (proper : IsProperMethod text params result) :
    (params.map SourceType.reflectionName).mapM SourceType.parse = .ok params ∧
      SourceType.parse result.reflectionName = .ok result := by
  rcases proper with ⟨denotes, _, areProper⟩
  cases denotes with
  | intro parameters returned =>
      constructor
      · rw [mapM_eq_ok_iff, List.map_map]
        apply List.map_congr_left
        intro type mem
        have isProper := areProper type (List.mem_append_left _ mem)
        rw [Function.comp_apply]
        exact isProper.parse fun _ => parameters.notVoid mem
      · have isProper := areProper result (List.mem_append_right _ List.mem_cons_self)
        exact isProper.parse returned.notVoidArray

end Descriptor

/-!
# Entries of members
-/

theorem FieldDecl.exists_toEntry {field : FieldDecl} {type : SourceType}
    (parsed : SourceType.parse field.type = .ok type) (registry : Registry)
    (declaredIn : ClassName) :
    ∃ entry, field.toEntry registry declaredIn = .ok entry ∧ entry.type = type.reflectionName := by
  unfold toEntry
  rw [parsed]
  exact ⟨_, rfl, rfl⟩

theorem ClassDecl.exists_toEntry {decl : ClassDecl} {registry : Registry}
    (fields : ∀ field ∈ decl.visibleFields, ∃ entry,
      field.toEntry registry decl.name = .ok entry)
    (constructors : ∀ constructor ∈ decl.visibleConstructors, ∃ entry,
      constructor.toEntry registry decl.name = .ok entry)
    (methods : ∀ method ∈ decl.visibleMethods, ∃ entry,
      method.toEntry registry decl.name decl.isInterface = .ok entry) :
    ∃ entry, decl.toEntry registry = .ok entry := by
  have candidates : ∀ method ∈ decl.visibleMethods, ∃ candidate,
      (method.toEntry registry decl.name decl.isInterface).map
        (MethodCandidate.mk method.isBridge) = .ok candidate := by
    intro method visible
    rcases methods method visible with ⟨entry, made⟩
    rw [made]
    exact ⟨_, rfl⟩
  rcases exists_mapM_of_forall fields with ⟨fieldEntries, madeFields⟩
  rcases exists_mapM_of_forall constructors with ⟨constructorEntries, madeConstructors⟩
  rcases exists_mapM_of_forall candidates with ⟨methodCandidates, madeMethods⟩
  unfold toEntry methodEntries ClassDecl.methodCandidates
  rw [madeFields, madeConstructors, madeMethods]
  exact ⟨_, rfl⟩

namespace ClassFile

variable {file : ClassFile} {registry : Registry}

def signature? (file : ClassFile) (method : Method) : Option String := do
  return (← file.pool.text? method.name) ++ (← file.pool.text? method.descriptor)

/-- All descriptors are proper. That of the static initialiser does not matter. -/
structure IsProper (file : ClassFile) : Prop where
  fields : ∀ field ∈ file.fields, ∃ text type,
    file.pool.text? field.descriptor = some text ∧ Descriptor.IsProperField text.toList type
  methods : ∀ method ∈ file.methods, file.pool.text? method.name ≠ some "<clinit>" →
    ∃ text params result, file.pool.text? method.descriptor = some text ∧
      Descriptor.IsProperMethod text.toList params result

def ReturnsNothing (file : ClassFile) (method : Method) : Prop :=
  ∃ text params, file.pool.text? method.descriptor = some text ∧
    Descriptor.DenotesMethod text.toList params (.primitive .void)

theorem IsProper.exists_of_member (proper : file.IsProper) {method : Method}
    (mem : method ∈ file.methods) {member : Member} (found : file.member method = .ok member)
    (declares : member ≠ .initializer) :
    ∃ spelled text params result, file.signature? method = some (spelled ++ text) ∧
      file.pool.text? method.descriptor = some text ∧
      Descriptor.IsProperMethod text.toList params result ∧
      member = if spelled = "<init>" then .constructor (constructorDecl method.flags params)
        else .method (methodDecl spelled method.flags params result) := by
  rcases ClassFile.exists_of_member found declares with
    ⟨spelled, text, params, result, named, notInitializer, described, read, same⟩
  have notNamed : file.pool.text? method.name ≠ some "<clinit>" := by
    rw [named]
    exact fun initializer => notInitializer (Option.some.inj initializer)
  rcases proper.methods method mem notNamed with
    ⟨other, ownParams, ownResult, otherwise, isProper⟩
  rw [described] at otherwise
  rcases Option.some.inj otherwise with rfl
  rw [Descriptor.method?_of_denotes isProper.denotes] at read
  rcases Prod.mk.inj (Option.some.inj read) with ⟨rfl, rfl⟩
  refine ⟨spelled, text, ownParams, ownResult, ?_, described, isProper, same⟩
  rw [signature?, named, described]
  rfl

theorem exists_toEntry_methodDecl {text : String} {params : List SourceType}
    {result : SourceType} (proper : Descriptor.IsProperMethod text.toList params result)
    (name : String) (flags : AccessFlags) (registry : Registry) (declaredIn : ClassName)
    (inInterface : Bool) :
    ∃ entry, (methodDecl name flags params result).toEntry registry declaredIn inInterface =
        .ok entry ∧ entry.signature = name ++ text := by
  have parsed : (methodDecl name flags params result).paramTypes.mapM SourceType.parse =
      .ok params := proper.parse.left
  have read : SourceType.parse (methodDecl name flags params result).returnType = .ok result :=
    proper.parse.right
  unfold MethodDecl.toEntry
  rw [parsed, read]
  refine ⟨_, rfl, ?_⟩
  show name ++ parameterDescriptors params ++ result.descriptor = name ++ text
  rw [String.append_assoc, proper.denotes.spelled proper.slashed]

theorem exists_toEntry_constructorDecl {text : String} {params : List SourceType}
    {result : SourceType} (proper : Descriptor.IsProperMethod text.toList params result)
    (flags : AccessFlags) (registry : Registry) (declaredIn : ClassName) :
    ∃ entry, (constructorDecl flags params).toEntry registry declaredIn = .ok entry ∧
      (result = .primitive .void → entry.signature = "<init>" ++ text) := by
  have parsed : (constructorDecl flags params).paramTypes.mapM SourceType.parse = .ok params :=
    proper.parse.left
  unfold ConstructorDecl.toEntry
  rw [parsed]
  refine ⟨_, rfl, ?_⟩
  intro isVoid
  show "<init>" ++ parameterDescriptors params ++ (SourceType.primitive .void).descriptor = _
  rw [String.append_assoc, ← isVoid, proper.denotes.spelled proper.slashed]

theorem IsProper.exists_method_entry (proper : file.IsProper) {method : Method}
    (mem : method ∈ file.methods) {declared : MethodDecl}
    (found : file.member method = .ok (.method declared)) (registry : Registry)
    (declaredIn : ClassName) (inInterface : Bool) :
    ∃ entry, declared.toEntry registry declaredIn inInterface = .ok entry ∧
      file.signature? method = some entry.signature := by
  rcases proper.exists_of_member mem found Member.noConfusion with
    ⟨spelled, text, params, result, signature, described, isProper, same⟩
  split at same
  · cases same
  · rcases Member.method.inj same with rfl
    rcases exists_toEntry_methodDecl isProper spelled method.flags registry declaredIn
        inInterface with ⟨entry, made, written⟩
    exact ⟨entry, made, written ▸ signature⟩

theorem IsProper.exists_constructor_entry (proper : file.IsProper) {method : Method}
    (mem : method ∈ file.methods) {declared : ConstructorDecl}
    (found : file.member method = .ok (.constructor declared)) (registry : Registry)
    (declaredIn : ClassName) :
    ∃ entry, declared.toEntry registry declaredIn = .ok entry ∧
      (file.ReturnsNothing method → file.signature? method = some entry.signature) := by
  rcases proper.exists_of_member mem found Member.noConfusion with
    ⟨spelled, text, params, result, signature, described, isProper, same⟩
  split at same
  · next isInit =>
      rcases Member.constructor.inj same with rfl
      rcases exists_toEntry_constructorDecl isProper method.flags registry declaredIn with
        ⟨entry, made, written⟩
      refine ⟨entry, made, ?_⟩
      intro returnsNothing
      rcases returnsNothing with ⟨other, others, otherwise, denotes⟩
      rw [described] at otherwise
      rcases Option.some.inj otherwise with rfl
      have read := Descriptor.method?_of_denotes isProper.denotes
      rw [Descriptor.method?_of_denotes denotes] at read
      have isVoid := (Prod.mk.inj (Option.some.inj read)).right
      rw [signature, isInit, written isVoid.symm]
  · cases same

/-!
# Entries of fields
-/

/-- The type that an entry has stored is read back with the descriptor of the file. -/
def SpellsField (file : ClassFile) (field : Field) (entry : FieldEntry) : Prop :=
  (SourceType.parse? entry.type).map SourceType.descriptor = file.pool.text? field.descriptor

theorem exists_toEntry_fieldDecl {field : Field} {declared : FieldDecl}
    (found : file.fieldDecl field = .ok declared) (typed : field.IsTyped file.pool)
    {text : String} {type : SourceType}
    (described : file.pool.text? field.descriptor = some text)
    (proper : Descriptor.IsProperField text.toList type) (narrow : Text.IsNarrow text.toList)
    (registry : Registry) (declaredIn : ClassName) :
    ∃ entry, declared.toEntry registry declaredIn = .ok entry ∧ file.SpellsField field entry := by
  have read := typed.read described
  rw [Descriptor.field?, Descriptor.fieldType?_of_narrow proper.denotes narrow] at read
  have parsed : SourceType.parse declared.type = .ok type := by
    rw [type_of_fieldDecl found, ← Option.some.inj read]
    exact proper.parse
  rcases FieldDecl.exists_toEntry parsed registry declaredIn with ⟨entry, made, stored⟩
  refine ⟨entry, made, ?_⟩
  rw [SpellsField, stored, parse?_of_parse proper.parse, described, Option.map_some,
    SourceType.descriptor, proper.denotes.descriptorChars proper.slashed, String.ofList_toList]

theorem not_spellsField_of_wide {field : Field} {declared : FieldDecl}
    (found : file.fieldDecl field = .ok declared) (typed : field.IsTyped file.pool)
    {text : String} {type : SourceType}
    (described : file.pool.text? field.descriptor = some text)
    (proper : Descriptor.IsProperField text.toList type) (wide : ¬Text.IsNarrow text.toList)
    {declaredIn : ClassName} {entry : FieldEntry}
    (made : declared.toEntry registry declaredIn = .ok entry) : ¬file.SpellsField field entry := by
  rcases FieldDecl.renders_of_toEntry made with ⟨seen, parsed, stored, _⟩
  have readable := isReadable_of_parse parsed
  rw [type_of_fieldDecl found] at parsed
  intro spells
  rw [SpellsField, stored, SourceType.parse?_reflectionName readable, described] at spells
  have same := congrArg String.toList (Option.some.inj spells)
  rw [SourceType.descriptor, String.toList_ofList] at same
  exact Descriptor.descriptorChars_ne_of_wide proper.denotes wide proper.proper
    (typed.read described) (parse?_of_parse parsed) same

end ClassFile
end ClassAtlas
