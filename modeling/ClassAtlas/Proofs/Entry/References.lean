import ClassAtlas.Proofs.Entry.Survivors
import ClassAtlas.Proofs.Whitelist.Configured

/-!
# What an entry refers to

An entry collects its references from the spellings it has stored. For admitted
names these are exactly the classes that the declaration refers to: as a
supertype or by the type of a field, a constructor or a surviving method. The
target types of the entry mention no other class.
-/

namespace ClassAtlas

inductive ClassDecl.Refers (decl : ClassDecl) (name : ClassName) : Prop where
  | superclass (parent : decl.superclass = some name)
  | interface (listed : name ∈ decl.allInterfaces)
  | field (field : FieldDecl) (visible : field ∈ decl.visibleFields)
      (named : ClassDecl.namedBy? field.type = some name)
  | constructor (constructor : ConstructorDecl) (visible : constructor ∈ decl.visibleConstructors)
      (raw : String) (param : raw ∈ constructor.paramTypes)
      (named : ClassDecl.namedBy? raw = some name)
  | method (method : MethodDecl) (survives : method ∈ decl.survivingMethods) (raw : String)
      (part : raw ∈ method.paramTypes ++ [method.returnType])
      (named : ClassDecl.namedBy? raw = some name)

/-!
# Spellings read back
-/

theorem SourceType.className?_reread_iff {type : SourceType} {name : ClassName}
    (notKeyword : Primitive.ofKeyword? name.text = none) :
    type.reread.className? = some name ↔ type.className? = some name := by
  constructor
  · exact className?_reread
  · intro named
    unfold reread
    split
    · next spelled =>
        have same : spelled = name := Option.some.inj named
        rw [same, ofName, notKeyword]
        rfl
    · exact named

theorem namedBy?_reflectionName {type : SourceType} (readable : type.IsReadable)
    {name : ClassName} (notKeyword : Primitive.ofKeyword? name.text = none) :
    ClassDecl.namedBy? type.reflectionName = some name ↔ type.className? = some name := by
  rw [ClassDecl.namedBy?, SourceType.parse?_reflectionName readable]
  exact SourceType.className?_reread_iff notKeyword

theorem namedBy?_of_parse {raw : String} {type : SourceType}
    (parsed : SourceType.parse raw = .ok type) : ClassDecl.namedBy? raw = type.className? := by
  rw [ClassDecl.namedBy?, parse?_of_parse parsed]
  rfl

theorem namedBy?_reflectionName_iff {raw : String} {type : SourceType}
    (parsed : SourceType.parse raw = .ok type) {name : ClassName}
    (notKeyword : Primitive.ofKeyword? name.text = none) :
    ClassDecl.namedBy? type.reflectionName = some name ↔
      ClassDecl.namedBy? raw = some name := by
  rw [namedBy?_reflectionName (isReadable_of_parse parsed) notKeyword, namedBy?_of_parse parsed]

theorem exists_named_reflectionName_iff {raws : List String} {types : List SourceType}
    (parsed : raws.mapM SourceType.parse = .ok types) {name : ClassName}
    (notKeyword : Primitive.ofKeyword? name.text = none) :
    (∃ spelling ∈ types.map SourceType.reflectionName,
        ClassDecl.namedBy? spelling = some name) ↔
      ∃ raw ∈ raws, ClassDecl.namedBy? raw = some name := by
  constructor
  · intro isNamed
    rcases isNamed with ⟨spelling, mem, named⟩
    rcases List.mem_map.mp mem with ⟨type, inTypes, rfl⟩
    rcases exists_of_mem_mapM parsed inTypes with ⟨raw, inRaws, found⟩
    exact ⟨raw, inRaws, (namedBy?_reflectionName_iff found notKeyword).mp named⟩
  · intro isNamed
    rcases isNamed with ⟨raw, inRaws, named⟩
    rcases exists_result_of_mem parsed inRaws with ⟨type, inTypes, found⟩
    exact ⟨type.reflectionName, List.mem_map_of_mem inTypes,
      (namedBy?_reflectionName_iff found notKeyword).mpr named⟩

/-!
# Mentioned classes
-/

theorem isOk_parse_of_spelledFrom {raws : List String} {spelling : String}
    (spelled : SpelledFrom raws spelling) : ∃ type, SourceType.parse spelling = .ok type := by
  have read : ∃ type, SourceType.parse? spelling = some type := by
    rcases spelled with rfl | ⟨raw, mem, type, parsed, rfl⟩
    · exact ⟨SourceType.primitive .void, SourceType.parse?_keyword .void⟩
    · exact ⟨type.reread,
        SourceType.parse?_reflectionName (SourceType.isReadable_of_parse? parsed)⟩
  rcases read with ⟨type, found⟩
  exact ⟨type, SourceType.parse_eq_ok_iff.mpr found⟩

/-- The references of an entry can be collected: it stores what can be read back. -/
theorem ClassDecl.exists_mentions_of_toEntry {registry : Registry} {decl : ClassDecl}
    {entry : ClassEntry} (built : decl.toEntry registry = .ok entry) :
    ∃ names, entry.mentions = .ok names := by
  have each : ∀ spelling ∈ entry.sourceTypes, ∃ type, SourceType.parse spelling = .ok type :=
    fun spelling mem => isOk_parse_of_spelledFrom (spelledFrom_sourceTypes built mem)
  rcases exists_mapM_of_forall each with ⟨types, parsed⟩
  refine ⟨entry.supertypes ++ types.filterMap SourceType.className?, ?_⟩
  rw [ClassEntry.mentions, ClassEntry.memberClasses, parsed]
  rfl

theorem ClassEntry.mem_mentions_iff {entry : ClassEntry} {names : List ClassName}
    (mentioned : entry.mentions = .ok names) {name : ClassName} :
    name ∈ names ↔ name ∈ entry.supertypes ∨
      ∃ spelling ∈ entry.sourceTypes, ClassDecl.namedBy? spelling = some name := by
  unfold mentions memberClasses at mentioned
  cases parsed : entry.sourceTypes.mapM SourceType.parse with
  | error cause => rw [parsed] at mentioned; exact of_error_eq_ok mentioned
  | ok types =>
      rw [parsed] at mentioned
      rcases Except.ok.inj mentioned with rfl
      rw [List.mem_append, List.mem_filterMap]
      apply or_congr_right
      constructor
      · intro isNamed
        rcases isNamed with ⟨type, inTypes, named⟩
        rcases exists_of_mem_mapM parsed inTypes with ⟨spelling, inSpellings, found⟩
        exact ⟨spelling, inSpellings, by rw [namedBy?_of_parse found, named]⟩
      · intro isNamed
        rcases isNamed with ⟨spelling, inSpellings, named⟩
        rcases exists_result_of_mem parsed inSpellings with ⟨type, inTypes, found⟩
        exact ⟨type, inTypes, by rw [← namedBy?_of_parse found, named]⟩

namespace ClassDecl

theorem field_named_iff {registry : Registry} {declaredIn : ClassName} {field : FieldDecl}
    {entry : FieldEntry} (built : field.toEntry registry declaredIn = .ok entry)
    {name : ClassName} (notKeyword : Primitive.ofKeyword? name.text = none) :
    namedBy? entry.type = some name ↔ namedBy? field.type = some name := by
  rcases FieldDecl.renders_of_toEntry built with ⟨type, parsed, spelled, _⟩
  rw [spelled]
  exact namedBy?_reflectionName_iff parsed notKeyword

theorem constructor_named_iff {registry : Registry} {declaredIn : ClassName}
    {constructor : ConstructorDecl} {entry : MethodEntry}
    (built : constructor.toEntry registry declaredIn = .ok entry) {name : ClassName}
    (notKeyword : Primitive.ofKeyword? name.text = none) :
    (∃ spelling ∈ entry.sourceTypes, namedBy? spelling = some name) ↔
      ∃ raw ∈ constructor.paramTypes, namedBy? raw = some name := by
  rcases ConstructorDecl.renders_of_toEntry built with ⟨params, parsed, renders⟩
  have ofVoid : namedBy? (SourceType.primitive .void).reflectionName ≠ some name := by
    intro named
    have readable : (SourceType.primitive .void).IsReadable :=
      ⟨trivial, fun deep => absurd rfl deep⟩
    exact nomatch (namedBy?_reflectionName readable notKeyword).mp named
  rw [← exists_named_reflectionName_iff parsed notKeyword, MethodEntry.sourceTypes,
    renders.paramTypes, renders.returns]
  constructor
  · intro isNamed
    rcases isNamed with ⟨spelling, mem, named⟩
    rcases List.mem_append.mp mem with isParam | isResult
    · exact ⟨spelling, isParam, named⟩
    · exact absurd (List.mem_singleton.mp isResult ▸ named) ofVoid
  · intro isNamed
    rcases isNamed with ⟨spelling, mem, named⟩
    exact ⟨spelling, List.mem_append_left _ mem, named⟩

theorem method_named_iff {registry : Registry} {declaredIn : ClassName} {inInterface : Bool}
    {method : MethodDecl} {entry : MethodEntry}
    (built : method.toEntry registry declaredIn inInterface = .ok entry) {name : ClassName}
    (notKeyword : Primitive.ofKeyword? name.text = none) :
    (∃ spelling ∈ entry.sourceTypes, namedBy? spelling = some name) ↔
      ∃ raw ∈ method.paramTypes ++ [method.returnType], namedBy? raw = some name := by
  rcases MethodDecl.renders_of_toEntry built with ⟨params, result, parsed, read, renders⟩
  have parsedAll : (method.paramTypes ++ [method.returnType]).mapM SourceType.parse =
      .ok (params ++ [result]) := by
    rw [mapM_eq_ok_iff, List.map_append, List.map_append, mapM_eq_ok_iff.mp parsed,
      List.map_singleton, List.map_singleton, read]
  rw [← exists_named_reflectionName_iff parsedAll notKeyword, MethodEntry.sourceTypes,
    renders.paramTypes, renders.returns, List.map_append, List.map_singleton]

/-- An entry mentions exactly the classes its declaration refers to, keywords apart. -/
theorem mem_mentions_iff_refers {registry : Registry} {decl : ClassDecl} {entry : ClassEntry}
    (built : decl.toEntry registry = .ok entry) {names : List ClassName}
    (mentioned : entry.mentions = .ok names) {name : ClassName}
    (notKeyword : Primitive.ofKeyword? name.text = none) :
    name ∈ names ↔ decl.Refers name := by
  rcases parts_of_toEntry built with ⟨fields, constructors, methods, _, supertypes⟩
  have survivors := mapM_survivingMethods methods
  rw [ClassEntry.mem_mentions_iff mentioned, supertypes]
  constructor
  · intro either
    rcases either with isSuper | ⟨spelling, mem, named⟩
    · rcases List.mem_append.mp isSuper with isParent | isInterface
      · exact .superclass (Option.mem_toList.mp isParent)
      · exact .interface isInterface
    · unfold ClassEntry.sourceTypes at mem
      rcases List.mem_append.mp mem with ofField | ofMember
      · rcases List.mem_map.mp ofField with ⟨field, inFields, rfl⟩
        rcases exists_of_mem_mapM fields inFields with ⟨declared, visible, made⟩
        exact .field declared visible ((field_named_iff made notKeyword).mp named)
      · rcases List.mem_flatMap.mp ofMember with ⟨member, inMembers, inTypes⟩
        rcases List.mem_append.mp inMembers with isConstructor | isMethod
        · rcases exists_of_mem_mapM constructors isConstructor with ⟨declared, visible, made⟩
          rcases (constructor_named_iff made notKeyword).mp ⟨spelling, inTypes, named⟩ with
            ⟨raw, param, namedRaw⟩
          exact .constructor declared visible raw param namedRaw
        · rcases exists_of_mem_mapM survivors isMethod with ⟨declared, survives, made⟩
          rcases (method_named_iff made notKeyword).mp ⟨spelling, inTypes, named⟩ with
            ⟨raw, part, namedRaw⟩
          exact .method declared survives raw part namedRaw
  · intro refers
    cases refers with
    | superclass parent =>
        exact Or.inl (List.mem_append_left _ (Option.mem_toList.mpr parent))
    | interface listed => exact Or.inl (List.mem_append_right _ listed)
    | field field visible named =>
        rcases exists_result_of_mem fields visible with ⟨member, inFields, made⟩
        exact Or.inr ⟨member.type, List.mem_append_left _ (List.mem_map_of_mem inFields),
          (field_named_iff made notKeyword).mpr named⟩
    | constructor constructor visible raw param named =>
        rcases exists_result_of_mem constructors visible with ⟨member, inMembers, made⟩
        rcases (constructor_named_iff made notKeyword).mpr ⟨raw, param, named⟩ with
          ⟨spelling, inTypes, namedSpelling⟩
        exact Or.inr ⟨spelling, List.mem_append_right _ (List.mem_flatMap.mpr
          ⟨member, List.mem_append_left _ inMembers, inTypes⟩), namedSpelling⟩
    | method method survives raw part named =>
        rcases exists_result_of_mem survivors survives with ⟨member, inMembers, made⟩
        rcases (method_named_iff made notKeyword).mpr ⟨raw, part, named⟩ with
          ⟨spelling, inTypes, namedSpelling⟩
        exact Or.inr ⟨spelling, List.mem_append_right _ (List.mem_flatMap.mpr
          ⟨member, List.mem_append_right _ inMembers, inTypes⟩), namedSpelling⟩

/-!
# Building
-/

theorem build_eq_ok_iff {whitelist : Whitelist} {resolved : List ClassName} {decl : ClassDecl}
    {entry : ClassEntry} {references : List ClassName} :
    decl.build whitelist resolved = .ok (entry, references) ↔
      decl.toEntry whitelist.registry = .ok entry ∧
      ∃ names, entry.mentions = .ok names ∧
        references = distinct (names.filter fun name =>
          name ≠ entry.fullName && name ∉ resolved && whitelist.admits name) := by
  unfold build
  constructor
  · intro built
    rcases exists_of_bind_eq_ok built with ⟨made, toEntry, later⟩
    rcases exists_of_bind_eq_ok later with ⟨collected, referred, last⟩
    rcases Prod.mk.inj (Except.ok.inj last) with ⟨rfl, rfl⟩
    refine ⟨toEntry, ?_⟩
    unfold ClassEntry.references at referred
    cases mentioned : made.mentions with
    | error cause => rw [mentioned] at referred; exact of_error_eq_ok referred
    | ok names =>
        rw [mentioned] at referred
        exact ⟨names, rfl, (Except.ok.inj referred).symm⟩
  · intro made
    rcases made with ⟨toEntry, names, mentioned, rfl⟩
    rw [toEntry]
    show (ClassEntry.references whitelist resolved entry).bind _ = _
    rw [ClassEntry.references, mentioned]
    rfl

theorem mem_references_of_build {whitelist : Whitelist} {resolved : List ClassName}
    {decl : ClassDecl} {entry : ClassEntry} {references names : List ClassName}
    (built : decl.build whitelist resolved = .ok (entry, references))
    (mentioned : entry.mentions = .ok names) {other : ClassName} :
    other ∈ references ↔
      other ∈ names ∧ other ≠ decl.name ∧ other ∉ resolved ∧ whitelist.admits other = true := by
  rcases build_eq_ok_iff.mp built with ⟨made, found, mentions, collected⟩
  rcases parts_of_toEntry made with ⟨_, _, _, fullName, _⟩
  rw [mentioned] at mentions
  rw [collected, mem_distinct, List.mem_filter, fullName, ← Except.ok.inj mentions]
  simp [and_assoc]

theorem exists_build_iff {whitelist : Whitelist} {resolved : List ClassName} {decl : ClassDecl} :
    (∃ built, decl.build whitelist resolved = .ok built) ↔
      ∃ entry, decl.toEntry whitelist.registry = .ok entry := by
  constructor
  · intro builds
    rcases builds with ⟨⟨entry, references⟩, built⟩
    exact ⟨entry, (build_eq_ok_iff.mp built).left⟩
  · intro made
    rcases made with ⟨entry, toEntry⟩
    rcases exists_mentions_of_toEntry toEntry with ⟨names, mentioned⟩
    exact ⟨_, build_eq_ok_iff.mpr ⟨toEntry, names, mentioned, rfl⟩⟩

/-- A class with two overloads. The first one refers to another class. -/
def overloaded : ClassDecl where
  name := ⟨"a.C"⟩
  modifiers := ["public"]
  isInterface := false
  isEnum := false
  superclass := none
  interfaces := []
  fields := []
  constructors := []
  methods := ["a.Gone", "int"].map fun type =>
    ⟨"f", ["public"], [type], "void", none, false, false, false, none, none⟩

example : overloaded.Refers ⟨"a.Gone"⟩ :=
  .method _ (List.mem_cons_self) "a.Gone" (by decide) (by decide)

end ClassDecl
end ClassAtlas
