import ClassAtlas.Entry.Build
import ClassAtlas.Results
import ClassAtlas.SourceType.Lemmas

/-!
# What a declaration mentions

Every class an entry refers to is named by the declaration it is built from: as a
supertype or by the type of a visible member. This bounds the classes that can
be reached from a source that holds finitely many declarations.
-/

namespace ClassAtlas

namespace ClassDecl

def memberTypes (decl : ClassDecl) : List String :=
  decl.visibleFields.map FieldDecl.type ++
    decl.visibleConstructors.flatMap ConstructorDecl.paramTypes ++
    decl.visibleMethods.flatMap fun method => method.paramTypes ++ [method.returnType]

def namedBy? (raw : String) : Option ClassName :=
  (SourceType.parse? raw).bind SourceType.className?

/-- Supertypes and the classes named by the types of visible members. -/
def mentioned (decl : ClassDecl) : List ClassName :=
  decl.superclass.toList ++ decl.allInterfaces ++ decl.memberTypes.filterMap namedBy?

end ClassDecl

theorem parse?_of_parse {raw : String} {type : SourceType}
    (parsed : SourceType.parse raw = .ok type) : SourceType.parse? raw = some type :=
  SourceType.parse_eq_ok_iff.mp parsed

/-!
# Spellings in an entry

A type of an entry is the reflection spelling of a type of a visible member, or
the missing result of a constructor.
-/

/-- Spelled from one of the given texts, or no result. -/
def SpelledFrom (raws : List String) (spelling : String) : Prop :=
  spelling = Primitive.void.keyword ∨
    ∃ raw ∈ raws, ∃ type, SourceType.parse? raw = some type ∧ spelling = type.reflectionName

theorem SpelledFrom.mono {few many : List String} (sub : ∀ raw ∈ few, raw ∈ many)
    {spelling : String} (spelled : SpelledFrom few spelling) : SpelledFrom many spelling := by
  rcases spelled with isVoid | ⟨raw, mem, type, parsed, same⟩
  · exact Or.inl isVoid
  · exact Or.inr ⟨raw, sub raw mem, type, parsed, same⟩

theorem spelledFrom_params {raws : List String} {types : List SourceType}
    (parsed : raws.mapM SourceType.parse = .ok types) {spelling : String}
    (mem : spelling ∈ types.map SourceType.reflectionName) : SpelledFrom raws spelling := by
  rcases List.mem_map.mp mem with ⟨type, inTypes, rfl⟩
  rcases exists_of_mem_mapM parsed inTypes with ⟨raw, inRaws, found⟩
  exact Or.inr ⟨raw, inRaws, type, parse?_of_parse found, rfl⟩

theorem FieldDecl.spelledFrom_toEntry {registry : Registry} {declaredIn : ClassName}
    {field : FieldDecl} {entry : FieldEntry}
    (built : field.toEntry registry declaredIn = .ok entry) :
    SpelledFrom [field.type] entry.type := by
  unfold FieldDecl.toEntry at built
  cases parsed : SourceType.parse field.type with
  | error cause => rw [parsed] at built; exact of_error_eq_ok built
  | ok type =>
      rw [parsed] at built
      rcases Except.ok.inj built with rfl
      exact Or.inr ⟨field.type, by simp, type, parse?_of_parse parsed, rfl⟩

theorem ConstructorDecl.spelledFrom_toEntry {registry : Registry} {declaredIn : ClassName}
    {constructor : ConstructorDecl} {entry : MethodEntry}
    (built : constructor.toEntry registry declaredIn = .ok entry) {spelling : String}
    (mem : spelling ∈ entry.sourceTypes) : SpelledFrom constructor.paramTypes spelling := by
  unfold ConstructorDecl.toEntry at built
  cases parsed : constructor.paramTypes.mapM SourceType.parse with
  | error cause => rw [parsed] at built; exact of_error_eq_ok built
  | ok params =>
      rw [parsed] at built
      rcases Except.ok.inj built with rfl
      rcases List.mem_append.mp mem with isParam | isResult
      · exact spelledFrom_params parsed isParam
      · exact Or.inl (List.mem_singleton.mp isResult)

theorem MethodDecl.spelledFrom_toEntry {registry : Registry} {declaredIn : ClassName}
    {inInterface : Bool} {method : MethodDecl} {entry : MethodEntry}
    (built : method.toEntry registry declaredIn inInterface = .ok entry) {spelling : String}
    (mem : spelling ∈ entry.sourceTypes) :
    SpelledFrom (method.paramTypes ++ [method.returnType]) spelling := by
  unfold MethodDecl.toEntry at built
  cases parsed : method.paramTypes.mapM SourceType.parse with
  | error cause => rw [parsed] at built; exact of_error_eq_ok built
  | ok params =>
      cases result : SourceType.parse method.returnType with
      | error cause => rw [parsed, result] at built; exact of_error_eq_ok built
      | ok returns =>
          rw [parsed, result] at built
          rcases Except.ok.inj built with rfl
          rcases List.mem_append.mp mem with isParam | isResult
          · exact (spelledFrom_params parsed isParam).mono (by simp +contextual)
          · rcases List.mem_singleton.mp isResult with rfl
            exact Or.inr ⟨method.returnType, by simp, returns, parse?_of_parse result, rfl⟩

namespace MethodCandidate

theorem mem_of_mem_takeUp {next other : MethodCandidate} {kept : List MethodCandidate}
    (mem : other ∈ next.takeUp kept) : other = next ∨ other ∈ kept := by
  induction kept with
  | nil => exact Or.inl (List.mem_singleton.mp mem)
  | cons first rest ih =>
      rw [takeUp] at mem
      split at mem
      · unfold orReal at mem
        split at mem
        · rcases List.mem_cons.mp mem with isNext | inRest
          · exact Or.inl isNext
          · exact Or.inr (List.mem_cons_of_mem _ inRest)
        · exact Or.inr mem
      · rcases List.mem_cons.mp mem with rfl | later
        · exact Or.inr List.mem_cons_self
        · exact (ih later).imp_right (List.mem_cons_of_mem _)

theorem mem_of_mem_withoutRedeclarations {candidates : List MethodCandidate}
    {other : MethodCandidate} (mem : other ∈ withoutRedeclarations candidates) :
    other ∈ candidates := by
  have inEither : ∀ kept : List MethodCandidate,
      other ∈ candidates.foldl (fun kept next => next.takeUp kept) kept →
        other ∈ kept ∨ other ∈ candidates := by
    clear mem
    induction candidates with
    | nil => exact fun kept => Or.inl
    | cons first rest ih =>
        intro kept mem
        rcases ih (first.takeUp kept) mem with taken | later
        · rcases mem_of_mem_takeUp taken with rfl | before
          · exact Or.inr List.mem_cons_self
          · exact Or.inl before
        · exact Or.inr (List.mem_cons_of_mem _ later)
  rcases inEither [] mem with impossible | found
  · cases impossible
  · exact found

end MethodCandidate

theorem ClassDecl.exists_of_mem_methodEntries {registry : Registry} {decl : ClassDecl}
    {entries : List MethodEntry} (built : decl.methodEntries registry = .ok entries)
    {entry : MethodEntry} (mem : entry ∈ entries) :
    ∃ method ∈ decl.visibleMethods,
      method.toEntry registry decl.name decl.isInterface = .ok entry := by
  unfold ClassDecl.methodEntries at built
  cases collected : decl.methodCandidates registry with
  | error cause => rw [collected] at built; exact of_error_eq_ok built
  | ok candidates =>
      rw [collected] at built
      rcases Except.ok.inj built with rfl
      rcases List.mem_map.mp mem with ⟨candidate, kept, rfl⟩
      have inCandidates := MethodCandidate.mem_of_mem_withoutRedeclarations kept
      rcases exists_of_mem_mapM collected inCandidates with ⟨method, visible, mapped⟩
      refine ⟨method, visible, ?_⟩
      cases single : method.toEntry registry decl.name decl.isInterface with
      | error cause => rw [single] at mapped; exact of_error_eq_ok mapped
      | ok value =>
          rw [single] at mapped
          rw [← Except.ok.inj mapped]

theorem ClassDecl.parts_of_toEntry {registry : Registry} {decl : ClassDecl} {entry : ClassEntry}
    (built : decl.toEntry registry = .ok entry) :
    decl.visibleFields.mapM (FieldDecl.toEntry registry decl.name) = .ok entry.fields ∧
    decl.visibleConstructors.mapM (ConstructorDecl.toEntry registry decl.name) =
      .ok entry.constructors ∧
    decl.methodEntries registry = .ok entry.methods ∧
    entry.fullName = decl.name ∧
    entry.supertypes = decl.superclass.toList ++ decl.allInterfaces := by
  unfold ClassDecl.toEntry at built
  cases fields : decl.visibleFields.mapM (FieldDecl.toEntry registry decl.name) with
  | error cause => rw [fields] at built; exact of_error_eq_ok built
  | ok fieldEntries =>
      cases constructors :
          decl.visibleConstructors.mapM (ConstructorDecl.toEntry registry decl.name) with
      | error cause => rw [fields, constructors] at built; exact of_error_eq_ok built
      | ok constructorEntries =>
          cases methods : decl.methodEntries registry with
          | error cause =>
              rw [fields, constructors, methods] at built; exact of_error_eq_ok built
          | ok methodEntries =>
              rw [fields, constructors, methods] at built
              rcases Except.ok.inj built with rfl
              exact ⟨rfl, rfl, rfl, rfl, rfl⟩

theorem ClassDecl.spelledFrom_sourceTypes {registry : Registry} {decl : ClassDecl}
    {entry : ClassEntry} (built : decl.toEntry registry = .ok entry) {spelling : String}
    (mem : spelling ∈ entry.sourceTypes) : SpelledFrom decl.memberTypes spelling := by
  rcases ClassDecl.parts_of_toEntry built with ⟨fields, constructors, methods, _, _⟩
  unfold ClassEntry.sourceTypes at mem
  rcases List.mem_append.mp mem with ofField | ofMember
  · rcases List.mem_map.mp ofField with ⟨field, inFields, rfl⟩
    rcases exists_of_mem_mapM fields inFields with ⟨decl', visible, mapped⟩
    refine (FieldDecl.spelledFrom_toEntry mapped).mono ?_
    intro raw single
    rcases List.mem_singleton.mp single with rfl
    simp only [ClassDecl.memberTypes, List.mem_append]
    exact Or.inl (Or.inl (List.mem_map_of_mem visible))
  · rcases List.mem_flatMap.mp ofMember with ⟨method, inMembers, inTypes⟩
    rcases List.mem_append.mp inMembers with isConstructor | isMethod
    · rcases exists_of_mem_mapM constructors isConstructor with ⟨decl', visible, mapped⟩
      refine (ConstructorDecl.spelledFrom_toEntry mapped inTypes).mono ?_
      intro raw inParams
      simp only [ClassDecl.memberTypes, List.mem_append]
      exact Or.inl (Or.inr (List.mem_flatMap.mpr ⟨decl', visible, inParams⟩))
    · rcases ClassDecl.exists_of_mem_methodEntries methods isMethod with ⟨decl', visible, mapped⟩
      refine (MethodDecl.spelledFrom_toEntry mapped inTypes).mono ?_
      intro raw inTypes
      simp only [ClassDecl.memberTypes, List.mem_append]
      exact Or.inr (List.mem_flatMap.mpr ⟨decl', visible, inTypes⟩)

/-!
# References are mentioned
-/

theorem namedBy?_of_spelledFrom {raws : List String} {spelling : String}
    (spelled : SpelledFrom raws spelling) {type : SourceType}
    (parsed : SourceType.parse spelling = .ok type) {name : ClassName}
    (named : type.className? = some name) : name ∈ raws.filterMap ClassDecl.namedBy? := by
  have found := parse?_of_parse parsed
  rcases spelled with rfl | ⟨raw, mem, given, read, rfl⟩
  · have isVoid : SourceType.parse? Primitive.void.keyword =
        some (SourceType.primitive .void) := by decide
    rw [isVoid] at found
    rcases Option.some.inj found with rfl
    exact absurd named (by simp [SourceType.className?, SourceType.primitive,
      ElementType.className?])
  · rw [SourceType.parse?_reflectionName (SourceType.isReadable_of_parse? read)] at found
    rcases Option.some.inj found with rfl
    refine List.mem_filterMap.mpr ⟨raw, mem, ?_⟩
    rw [ClassDecl.namedBy?, read]
    exact SourceType.className?_reread named

theorem ClassDecl.mem_mentioned_of_mentions {registry : Registry} {decl : ClassDecl}
    {entry : ClassEntry} (built : decl.toEntry registry = .ok entry) {names : List ClassName}
    (mentioned : entry.mentions = .ok names) {name : ClassName} (mem : name ∈ names) :
    name ∈ decl.mentioned := by
  unfold ClassEntry.mentions ClassEntry.memberClasses at mentioned
  cases parsed : entry.sourceTypes.mapM SourceType.parse with
  | error cause => rw [parsed] at mentioned; exact of_error_eq_ok mentioned
  | ok types =>
      rw [parsed] at mentioned
      rcases Except.ok.inj mentioned with rfl
      rcases ClassDecl.parts_of_toEntry built with ⟨_, _, _, _, supertypes⟩
      unfold ClassDecl.mentioned
      rcases List.mem_append.mp mem with isSuper | isMember
      · exact List.mem_append_left _ (supertypes ▸ isSuper)
      · rcases List.mem_filterMap.mp isMember with ⟨type, inTypes, named⟩
        rcases exists_of_mem_mapM parsed inTypes with ⟨spelling, inEntry, read⟩
        exact List.mem_append_right _
          (namedBy?_of_spelledFrom (ClassDecl.spelledFrom_sourceTypes built inEntry) read named)

theorem ClassDecl.mem_of_build {whitelist : Whitelist} {resolved : List ClassName}
    {decl : ClassDecl} {entry : ClassEntry} {references : List ClassName}
    (built : decl.build whitelist resolved = .ok (entry, references)) {name : ClassName}
    (mem : name ∈ references) :
    name ∈ decl.mentioned ∧ name ≠ decl.name ∧ name ∉ resolved ∧
      whitelist.admits name = true := by
  unfold ClassDecl.build at built
  cases made : decl.toEntry whitelist.registry with
  | error cause => rw [made] at built; exact of_error_eq_ok built
  | ok value =>
      cases mentioned : value.mentions with
      | error cause =>
          rw [made] at built
          change (ClassEntry.references whitelist resolved value).bind _ = _ at built
          rw [ClassEntry.references, mentioned] at built
          exact of_error_eq_ok built
      | ok names =>
          rw [made] at built
          change (ClassEntry.references whitelist resolved value).bind _ = _ at built
          rw [ClassEntry.references, mentioned] at built
          rcases Prod.mk.inj (Except.ok.inj built) with ⟨rfl, rfl⟩
          rcases List.mem_filter.mp (mem_distinct.mp mem) with ⟨inNames, kept⟩
          simp only [Bool.and_eq_true, decide_eq_true_eq] at kept
          rcases ClassDecl.parts_of_toEntry made with ⟨_, _, _, fullName, _⟩
          exact ⟨ClassDecl.mem_mentioned_of_mentions made mentioned inNames,
            fullName ▸ kept.left.left, kept.left.right, kept.right⟩

end ClassAtlas
