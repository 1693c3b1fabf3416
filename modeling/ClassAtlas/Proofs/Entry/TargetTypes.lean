import ClassAtlas.Proofs.Counterpart
import ClassAtlas.Proofs.Entry.Overloads
import ClassAtlas.Proofs.Entry.References

/-!
# The target types of an entry

An entry that is just built spells every class by its registered name, has no
alias, and mentions in its target types only classes it refers to. What is resolved
decides only which of these are reported.
-/

namespace ClassAtlas

/-- The parts of an entry that follow from its other parts. -/
structure ClassEntry.Derived (registry : Registry) (entry : ClassEntry) : Prop where
  targetSupertypes :
    entry.targetSupertypes = entry.supertypes.filterMap (ClassDecl.mappedType? registry)
  variants : entry.variants = Overload.groupByName entry.methods
  shortName : entry.shortName = entry.fullName.shortName
  aliasName : entry.aliasName = entry.fullName.shortName
  useAlias : entry.useAlias = false
  targetType : entry.isPrimitive = false → entry.targetType = entry.fullName.shortName

theorem ClassDecl.derived_of_toEntry {registry : Registry} {decl : ClassDecl}
    {entry : ClassEntry} (built : decl.toEntry registry = .ok entry) :
    entry.Derived registry := by
  unfold ClassDecl.toEntry at built
  rcases exists_of_bind_eq_ok built with ⟨fields, _, afterFields⟩
  rcases exists_of_bind_eq_ok afterFields with ⟨constructors, _, afterConstructors⟩
  rcases exists_of_bind_eq_ok afterConstructors with ⟨methods, _, made⟩
  rw [← Except.ok.inj made]
  refine ⟨rfl, rfl, rfl, rfl, rfl, ?_⟩
  intro notPrimitive
  exact if_neg (Bool.eq_false_iff.mp notPrimitive)

/-!
# Members
-/

theorem ClassDecl.exists_renders_of_mem {registry : Registry} {decl : ClassDecl}
    {entry : ClassEntry} (built : decl.toEntry registry = .ok entry) {method : MethodEntry}
    (mem : method ∈ entry.constructors ++ entry.methods) :
    ∃ spelled params result, method.Renders registry spelled params result ∧
      ∀ type ∈ params ++ [result], type.IsReadable := by
  rcases parts_of_toEntry built with ⟨_, constructors, methods, _, _⟩
  have readable : ∀ {raws : List String} {params : List SourceType} {result : SourceType},
      raws.mapM SourceType.parse = .ok params → result.IsReadable →
        ∀ type ∈ params ++ [result], type.IsReadable := by
    intro raws params result parsed readableResult type inTypes
    rcases List.mem_append.mp inTypes with isParam | isResult
    · exact isReadable_of_mem_mapM_parse parsed isParam
    · rw [List.mem_singleton.mp isResult]
      exact readableResult
  rcases List.mem_append.mp mem with isConstructor | isMethod
  · rcases exists_of_mem_mapM constructors isConstructor with ⟨declared, _, made⟩
    rcases ConstructorDecl.renders_of_toEntry made with ⟨params, parsed, renders⟩
    have readableVoid : (SourceType.primitive .void).IsReadable :=
      ⟨trivial, fun deep => absurd rfl deep⟩
    exact ⟨_, params, _, renders, readable parsed readableVoid⟩
  · rcases exists_of_mem_methodEntries methods isMethod with ⟨declared, _, made⟩
    rcases MethodDecl.renders_of_toEntry made with ⟨params, result, parsed, read, renders⟩
    exact ⟨_, params, result, renders, readable parsed (isReadable_of_parse read)⟩

theorem MethodEntry.exists_source_of_reference {registry : Registry} {method : MethodEntry}
    {spelled : String} {params : List SourceType} {result : SourceType}
    (renders : method.Renders registry spelled params result)
    (readable : ∀ type ∈ params ++ [result], type.IsReadable) {type : TargetType}
    (mem : type ∈ method.targetTypes) {name : ClassName} {spelling : String}
    (mentions : type.reference? = some (name, spelling)) :
    registry name = some spelling ∧ ∃ source : SourceType, source.IsReadable ∧
      source.reflectionName ∈ method.sourceTypes ∧ source.className? = some name := by
  have translated : ∃ source ∈ params ++ [result], ∃ position,
      source.translate registry position = type := by
    unfold targetTypes at mem
    rw [renders.targetParams, renders.targetReturn] at mem
    rcases List.mem_append.mp mem with isParam | isResult
    · rcases List.mem_map.mp isParam with ⟨source, inParams, made⟩
      exact ⟨source, List.mem_append_left _ inParams, .parameter, made⟩
    · exact ⟨result, by simp, .result, (List.mem_singleton.mp isResult).symm⟩
  rcases translated with ⟨source, inTypes, position, rfl⟩
  rcases SourceType.reference?_translate mentions with ⟨named, registered⟩
  refine ⟨registered, source, readable source inTypes, ?_, named⟩
  rw [sourceTypes, renders.paramTypes, renders.returns, ← List.map_singleton, ← List.map_append]
  exact List.mem_map_of_mem inTypes

/-!
# References of target types
-/

/-- A class that a target type of a built entry mentions is registered, spelled as
registered, and named by the entry. -/
theorem ClassDecl.registered_of_reference {registry : Registry} {decl : ClassDecl}
    {entry : ClassEntry} (built : decl.toEntry registry = .ok entry) {type : TargetType}
    (mem : type ∈ entry.targetTypes) {name : ClassName} {spelled : String}
    (mentions : type.reference? = some (name, spelled)) :
    registry name = some spelled ∧
      (name ∈ entry.supertypes ∨ ∃ source : SourceType, source.IsReadable ∧
        source.reflectionName ∈ entry.sourceTypes ∧ source.className? = some name) := by
  have derived := derived_of_toEntry built
  have ofMember : ∀ method ∈ entry.constructors ++ entry.methods, type ∈ method.targetTypes →
      registry name = some spelled ∧ ∃ source : SourceType, source.IsReadable ∧
        source.reflectionName ∈ entry.sourceTypes ∧ source.className? = some name := by
    intro method inMembers inMethod
    rcases exists_renders_of_mem built inMembers with
      ⟨spelling, params, result, renders, readable⟩
    rcases MethodEntry.exists_source_of_reference renders readable inMethod mentions with
      ⟨registered, source, readableSource, inTypes, named⟩
    exact ⟨registered, source, readableSource, List.mem_append_right _
      (List.mem_flatMap.mpr ⟨method, inMembers, inTypes⟩), named⟩
  unfold ClassEntry.targetTypes at mem
  rw [List.mem_append, List.mem_append] at mem
  rcases mem with (isSuper | ofField) | ofMethod
  · rw [derived.targetSupertypes] at isSuper
    rcases List.mem_filterMap.mp isSuper with ⟨super, inSupertypes, mapped⟩
    rcases Option.map_eq_some_iff.mp mapped with ⟨spelling, registered, rfl⟩
    rcases Prod.mk.inj (Option.some.inj mentions) with ⟨rfl, rfl⟩
    exact ⟨registered, Or.inl inSupertypes⟩
  · rcases List.mem_map.mp ofField with ⟨field, inFields, rfl⟩
    rcases parts_of_toEntry built with ⟨fields, _⟩
    rcases exists_of_mem_mapM fields inFields with ⟨declared, _, made⟩
    rcases FieldDecl.renders_of_toEntry made with ⟨source, parsed, spelledAs, translated⟩
    rw [translated] at mentions
    rcases SourceType.reference?_translate mentions with ⟨named, registered⟩
    refine ⟨registered, Or.inr ⟨source, isReadable_of_parse parsed, ?_, named⟩⟩
    rw [← spelledAs]
    exact List.mem_append_left _ (List.mem_map_of_mem inFields)
  · rcases List.mem_flatMap.mp ofMethod with ⟨method, inMethods, inMethod⟩
    rcases List.mem_append.mp inMethods with inMembers | inGroups
    · rcases ofMember method inMembers inMethod with ⟨registered, named⟩
      exact ⟨registered, Or.inr named⟩
    · unfold ClassEntry.groupedMethods at inGroups
      rw [derived.variants] at inGroups
      have inMembers := List.mem_append_right entry.constructors
        (Overload.mem_of_mem_groupByName inGroups)
      rcases ofMember method inMembers inMethod with ⟨registered, named⟩
      exact ⟨registered, Or.inr named⟩

theorem ClassDecl.mem_mentions_of_reference {whitelist : Whitelist}
    (configured : whitelist.IsConfigured) {decl : ClassDecl} {entry : ClassEntry}
    (built : decl.toEntry whitelist.registry = .ok entry) {names : List ClassName}
    (mentioned : entry.mentions = .ok names) {type : TargetType}
    (mem : type ∈ entry.targetTypes) {name : ClassName} {spelled : String}
    (mentions : type.reference? = some (name, spelled)) :
    name ∈ names ∧ whitelist.admits name = true ∧ spelled = name.shortName := by
  rcases registered_of_reference built mem mentions with ⟨registered, named⟩
  unfold Whitelist.registry at registered
  split at registered
  · next admitted =>
      refine ⟨?_, admitted, (Option.some.inj registered).symm⟩
      rw [ClassEntry.mem_mentions_iff mentioned]
      rcases named with isSuper | ⟨source, readable, inTypes, isNamed⟩
      · exact Or.inl isSuper
      · have notKeyword := Whitelist.ofKeyword?_of_admits configured admitted
        exact Or.inr ⟨source.reflectionName, inTypes,
          (namedBy?_reflectionName readable notKeyword).mpr isNamed⟩
  · cases registered

/-!
# What is resolved
-/

namespace ClassDecl

theorem build_of_resolved {whitelist : Whitelist} {resolved : List ClassName} {decl : ClassDecl}
    {entry : ClassEntry} {references : List ClassName}
    (built : decl.build whitelist resolved = .ok (entry, references)) :
    ∃ all, decl.build whitelist [] = .ok (entry, all) ∧
      references = all.filter fun name => name ∉ resolved := by
  rcases build_eq_ok_iff.mp built with ⟨made, names, mentioned, rfl⟩
  refine ⟨_, build_eq_ok_iff.mpr ⟨made, names, mentioned, rfl⟩, ?_⟩
  rw [← distinct_filter, List.filter_filter]
  congr 2
  funext name
  simp [Bool.and_assoc, Bool.and_left_comm]

theorem reported_of_reference {whitelist : Whitelist} (configured : whitelist.IsConfigured)
    {resolved : List ClassName} {decl : ClassDecl} {entry : ClassEntry}
    {references : List ClassName}
    (built : decl.build whitelist resolved = .ok (entry, references)) {type : TargetType}
    (mem : type ∈ entry.targetTypes) {name : ClassName} {spelled : String}
    (mentions : type.reference? = some (name, spelled)) :
    name = decl.name ∨ name ∈ resolved ∨ name ∈ references := by
  rcases build_eq_ok_iff.mp built with ⟨made, names, mentioned, _⟩
  rcases mem_mentions_of_reference configured made mentioned mem mentions with
    ⟨inNames, admitted, _⟩
  rw [mem_references_of_build built mentioned]
  by_cases itself : name = decl.name
  · exact Or.inl itself
  · by_cases known : name ∈ resolved
    · exact Or.inr (Or.inl known)
    · exact Or.inr (Or.inr ⟨inNames, itself, known, admitted⟩)

/-- An entry does not depend on what is resolved, and its references only leave out what is.
They are admitted classes other than the class itself. No target type of the entry mentions a
class that is neither the class itself nor resolved nor reported. -/
theorem build_whatever_resolved {whitelist : Whitelist} (configured : whitelist.IsConfigured)
    {resolved : List ClassName} {decl : ClassDecl} {entry : ClassEntry}
    {references : List ClassName}
    (built : decl.build whitelist resolved = .ok (entry, references)) :
    (∃ all, decl.build whitelist [] = .ok (entry, all) ∧
      references = all.filter fun name => name ∉ resolved) ∧
    (∀ name ∈ references,
      name ≠ decl.name ∧ name ∉ resolved ∧ whitelist.admits name = true) ∧
    ∀ type ∈ entry.targetTypes, ∀ name spelled, type.reference? = some (name, spelled) →
      name = decl.name ∨ name ∈ resolved ∨ name ∈ references := by
  refine ⟨build_of_resolved built, fun name mem => (mem_of_build built mem).right, ?_⟩
  intro type mem name spelled mentions
  exact reported_of_reference configured built mem mentions

def linked : ClassDecl where
  name := ⟨"a.C"⟩
  modifiers := ["public"]
  isInterface := false
  isEnum := false
  superclass := some ⟨"a.Base"⟩
  interfaces := []
  fields := [⟨"all", ["public"], "a.C[]", false⟩]
  constructors := []
  methods := [⟨"get", ["public"], ["int"], "a.One[]", none, false, false, false, none, none⟩]

theorem build_whatever_resolved_linked :
    ∃ entry, linked.build (Whitelist.ofRules [.package "a"]) [⟨"a.Base"⟩] =
        .ok (entry, [⟨"a.One"⟩]) ∧
      (∃ all, linked.build (Whitelist.ofRules [.package "a"]) [] = .ok (entry, all) ∧
        [⟨"a.One"⟩] = all.filter fun name => name ∉ [⟨"a.Base"⟩]) ∧
      TargetType.array (.mapped ⟨"a.One"⟩ "One") ∈ entry.targetTypes ∧
      ∀ type ∈ entry.targetTypes, ∀ name spelled, type.reference? = some (name, spelled) →
        name = linked.name ∨ name ∈ [⟨"a.Base"⟩] ∨ name ∈ [⟨"a.One"⟩] := by
  have configured : (Whitelist.ofRules [.package "a"]).IsConfigured :=
    Whitelist.isConfigured_of_parse (show Whitelist.parse ["a.*"] = _ from rfl)
  have made : ∃ entry, linked.build (Whitelist.ofRules [.package "a"]) [⟨"a.Base"⟩] =
      .ok (entry, [⟨"a.One"⟩]) ∧
        TargetType.array (.mapped ⟨"a.One"⟩ "One") ∈ entry.targetTypes := ⟨_, rfl, by decide⟩
  rcases made with ⟨entry, built, returned⟩
  rcases build_whatever_resolved configured built with ⟨same, _, reported⟩
  exact ⟨entry, built, same, returned, reported⟩

end ClassDecl

end ClassAtlas
