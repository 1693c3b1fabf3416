import ClassAtlas.Closure.Resolver
import ClassAtlas.Proofs.TargetType

/-!
# Finishing an entry

At the end of a run the missing classes are erased from every entry and the
aliases are assigned. Both together change each target type in one way. A run
that continues an earlier one finishes its entries again; the second finish
gives what it would have given on the entry first built.
-/

namespace ClassAtlas

/-!
# Changes of every target type
-/

namespace MethodEntry

theorem mapTypes_mapTypes (later earlier : TargetType → TargetType) (method : MethodEntry) :
    (method.mapTypes earlier).mapTypes later = method.mapTypes (later ∘ earlier) := by
  simp only [mapTypes, List.map_map, Function.comp_apply]

theorem targetTypes_mapTypes (change : TargetType → TargetType) (method : MethodEntry) :
    (method.mapTypes change).targetTypes = method.targetTypes.map change := by
  simp only [targetTypes, mapTypes, List.map_append, List.map_singleton]

end MethodEntry

namespace OverloadGroup

theorem methods_mapMethods (change : MethodEntry → MethodEntry) (group : OverloadGroup) :
    (group.mapMethods change).methods = group.methods.map change := by
  cases group <;> rfl

theorem mapMethods_mapMethods (later earlier : MethodEntry → MethodEntry)
    (group : OverloadGroup) :
    (group.mapMethods earlier).mapMethods later = group.mapMethods (later ∘ earlier) := by
  cases group <;> simp only [mapMethods, List.map_map, Function.comp_apply]

end OverloadGroup

namespace ClassEntry

theorem groupedMethods_mapTypes (change : TargetType → TargetType) (entry : ClassEntry) :
    (entry.mapTypes change).groupedMethods =
      entry.groupedMethods.map (MethodEntry.mapTypes change) := by
  simp only [groupedMethods, mapTypes, List.flatMap_map, List.map_flatMap,
    OverloadGroup.methods_mapMethods]

theorem targetTypes_mapTypes (change : TargetType → TargetType) (entry : ClassEntry) :
    (entry.mapTypes change).targetTypes = entry.targetTypes.map change := by
  rw [targetTypes, groupedMethods_mapTypes, targetTypes]
  simp only [mapTypes, List.map_append, List.map_map, List.map_flatMap, List.flatMap_append,
    List.flatMap_map, MethodEntry.targetTypes_mapTypes]
  rfl

theorem mapTypes_mapTypes (later earlier : TargetType → TargetType) (entry : ClassEntry) :
    (entry.mapTypes earlier).mapTypes later = entry.mapTypes (later ∘ earlier) := by
  have methods : MethodEntry.mapTypes later ∘ MethodEntry.mapTypes earlier =
      MethodEntry.mapTypes (later ∘ earlier) :=
    funext (MethodEntry.mapTypes_mapTypes later earlier)
  have groups : ∀ group : OverloadGroup,
      (group.mapMethods (MethodEntry.mapTypes earlier)).mapMethods (MethodEntry.mapTypes later) =
        group.mapMethods (MethodEntry.mapTypes (later ∘ earlier)) := by
    intro group
    rw [OverloadGroup.mapMethods_mapMethods, methods]
  simp only [mapTypes, List.map_map, Function.comp_def, groups,
    MethodEntry.mapTypes_mapTypes]

end ClassEntry

/-!
# Finished entries
-/

namespace Resolver

def finishType (missing : List ClassName) (aliased : List (ClassName × String))
    (type : TargetType) : TargetType :=
  (type.retain fun name => name ∉ missing).respell (aliasOf? aliased)

def finishEntry (missing : List ClassName) (aliased : List (ClassName × String))
    (entry : ClassEntry) : ClassEntry :=
  applyAliases aliased (eraseFrom missing entry)

theorem finishEntry_eq (missing : List ClassName) (aliased : List (ClassName × String))
    (entry : ClassEntry) :
    finishEntry missing aliased entry =
      ClassEntry.mapTypes (finishType missing aliased)
        { entry with
          targetSupertypes :=
            entry.targetSupertypes.filter fun type => !isMissingType missing type
          targetType := (aliasOf? aliased entry.fullName).getD entry.targetType
          aliasName := (aliasOf? aliased entry.fullName).getD entry.aliasName
          useAlias := (aliasOf? aliased entry.fullName).isSome || entry.useAlias } := by
  have fullName : (eraseFrom missing entry).fullName = entry.fullName := rfl
  have both := ClassEntry.mapTypes_mapTypes (TargetType.respell (aliasOf? aliased))
    (TargetType.retain fun name => name ∉ missing)
  unfold finishEntry applyAliases
  rw [fullName]
  cases found : aliasOf? aliased entry.fullName with
  | none => exact both _
  | some spelled =>
      exact both
        { entry with
          targetSupertypes :=
            entry.targetSupertypes.filter fun type => !isMissingType missing type
          targetType := spelled
          aliasName := spelled
          useAlias := true }

@[simp] theorem fullName_finishEntry (missing : List ClassName)
    (aliased : List (ClassName × String)) (entry : ClassEntry) :
    (finishEntry missing aliased entry).fullName = entry.fullName := by
  rw [finishEntry_eq]
  rfl

@[simp] theorem shortName_finishEntry (missing : List ClassName)
    (aliased : List (ClassName × String)) (entry : ClassEntry) :
    (finishEntry missing aliased entry).shortName = entry.shortName := by
  rw [finishEntry_eq]
  rfl

@[simp] theorem isPrimitive_finishEntry (missing : List ClassName)
    (aliased : List (ClassName × String)) (entry : ClassEntry) :
    (finishEntry missing aliased entry).isPrimitive = entry.isPrimitive := by
  rw [finishEntry_eq]
  rfl

theorem exists_of_mem_targetTypes_finishEntry {missing : List ClassName}
    {aliased : List (ClassName × String)} {entry : ClassEntry} {type : TargetType}
    (mem : type ∈ (finishEntry missing aliased entry).targetTypes) :
    ∃ earlier ∈ entry.targetTypes, finishType missing aliased earlier = type := by
  rw [finishEntry_eq, ClassEntry.targetTypes_mapTypes] at mem
  rcases List.mem_map.mp mem with ⟨earlier, inEntry, made⟩
  refine ⟨earlier, ?_, made⟩
  unfold ClassEntry.targetTypes at inEntry ⊢
  rw [List.append_assoc] at inEntry ⊢
  rcases List.mem_append.mp inEntry with isSuper | inMembers
  · exact List.mem_append_left _ (List.mem_filter.mp isSuper).left
  · exact List.mem_append_right _ inMembers

theorem reference?_finishType {missing : List ClassName} {aliased : List (ClassName × String)}
    {type : TargetType} {name : ClassName} {spelled : String}
    (mentions : (finishType missing aliased type).reference? = some (name, spelled)) :
    name ∉ missing ∧ ∃ earlier, type.reference? = some (name, earlier) ∧
      spelled = (aliasOf? aliased name).getD earlier := by
  rw [finishType, TargetType.reference?_respell, TargetType.reference?_retain] at mentions
  rcases Option.map_eq_some_iff.mp mentions with ⟨⟨found, earlier⟩, kept, same⟩
  rcases Prod.mk.inj same with ⟨rfl, rfl⟩
  rcases Option.filter_eq_some_iff.mp kept with ⟨before, present⟩
  exact ⟨of_decide_eq_true present, earlier, before, rfl⟩

theorem isMissingType_congr {missing others : List ClassName}
    (same : ∀ name, name ∈ missing ↔ name ∈ others) :
    isMissingType missing = isMissingType others := by
  funext type
  cases type with
  | mapped name spelled => exact decide_eq_decide.mpr (same name)
  | _ => rfl

theorem finishType_congr {missing others : List ClassName}
    {aliased otherAliased : List (ClassName × String)}
    (sameMissing : ∀ name, name ∈ missing ↔ name ∈ others)
    (sameAliases : aliasOf? aliased = aliasOf? otherAliased) :
    finishType missing aliased = finishType others otherAliased := by
  have keeps : (fun name => decide (name ∉ missing)) = fun name => decide (name ∉ others) :=
    funext fun name => decide_eq_decide.mpr (not_congr (sameMissing name))
  funext type
  unfold finishType
  rw [keeps, sameAliases]

/-- Finishing depends on which classes are missing and on the aliases, not on their order. -/
theorem finishEntry_congr {missing others : List ClassName}
    {aliased otherAliased : List (ClassName × String)}
    (sameMissing : ∀ name, name ∈ missing ↔ name ∈ others)
    (sameAliases : aliasOf? aliased = aliasOf? otherAliased) (entry : ClassEntry) :
    finishEntry missing aliased entry = finishEntry others otherAliased entry := by
  rw [finishEntry_eq, finishEntry_eq others, finishType_congr sameMissing sameAliases,
    isMissingType_congr sameMissing, sameAliases]

/-!
# Finishing again
-/

def KeepsAliases (aliased more : List (ClassName × String)) : Prop :=
  ∀ name spelled, aliasOf? aliased name = some spelled → aliasOf? more name = some spelled

theorem finishType_finishType {missing moreMissing : List ClassName}
    {aliased moreAliased : List (ClassName × String)} (grows : missing ⊆ moreMissing)
    (keeps : KeepsAliases aliased moreAliased) (type : TargetType) :
    finishType moreMissing moreAliased (finishType missing aliased type) =
      finishType moreMissing moreAliased type := by
  apply TargetType.respell_retain_respell_retain
  · intro name present
    have notMissing : name ∉ moreMissing := of_decide_eq_true present
    exact decide_eq_true fun absent => notMissing (grows absent)
  · exact keeps

theorem isMissingType_finishType {missing moreMissing : List ClassName}
    {aliased : List (ClassName × String)} {type : TargetType}
    (present : isMissingType missing type = false) :
    isMissingType moreMissing (finishType missing aliased type) =
      isMissingType moreMissing type := by
  cases type with
  | mapped name spelled =>
      have notMissing : name ∉ missing := of_decide_eq_false present
      simp [finishType, TargetType.retain, TargetType.respell, isMissingType, notMissing]
  | _ => rfl

theorem filter_map_finishType {missing moreMissing : List ClassName}
    (aliased : List (ClassName × String)) (grows : missing ⊆ moreMissing)
    (types : List TargetType) :
    ((types.filter fun type => !isMissingType missing type).map
        (finishType missing aliased)).filter (fun type => !isMissingType moreMissing type) =
      (types.filter fun type => !isMissingType moreMissing type).map
        (finishType missing aliased) := by
  rw [List.filter_map, List.filter_filter]
  congr 1
  apply List.filter_congr
  intro type _
  cases present : isMissingType missing type with
  | false => simp [isMissingType_finishType present]
  | true =>
      have stillMissing : isMissingType moreMissing type = true := by
        cases type with
        | mapped name spelled => exact decide_eq_true (grows (of_decide_eq_true present))
        | _ => cases present
      simp [stillMissing]

/-- Finishing again overrides the earlier finish. -/
theorem finishEntry_finishEntry {missing moreMissing : List ClassName}
    {aliased moreAliased : List (ClassName × String)} (grows : missing ⊆ moreMissing)
    (keeps : KeepsAliases aliased moreAliased) (entry : ClassEntry) :
    finishEntry moreMissing moreAliased (finishEntry missing aliased entry) =
      finishEntry moreMissing moreAliased entry := by
  have types : finishType moreMissing moreAliased ∘ finishType missing aliased =
      finishType moreMissing moreAliased := funext (finishType_finishType grows keeps)
  have names : ∀ own : String,
      (aliasOf? moreAliased entry.fullName).getD ((aliasOf? aliased entry.fullName).getD own) =
        (aliasOf? moreAliased entry.fullName).getD own := by
    intro own
    cases found : aliasOf? aliased entry.fullName with
    | none => rfl
    | some spelled => rw [keeps _ _ found]; rfl
  have flags : ((aliasOf? moreAliased entry.fullName).isSome ||
      ((aliasOf? aliased entry.fullName).isSome || entry.useAlias)) =
        ((aliasOf? moreAliased entry.fullName).isSome || entry.useAlias) := by
    cases found : aliasOf? aliased entry.fullName with
    | none => simp
    | some spelled => simp [keeps _ _ found]
  have supertypes := filter_map_finishType aliased grows entry.targetSupertypes
  have again := ClassEntry.mapTypes_mapTypes (finishType moreMissing moreAliased)
    (finishType missing aliased)
    { entry with
      targetSupertypes :=
        entry.targetSupertypes.filter fun type => !isMissingType moreMissing type
      targetType := (aliasOf? moreAliased entry.fullName).getD entry.targetType
      aliasName := (aliasOf? moreAliased entry.fullName).getD entry.aliasName
      useAlias := (aliasOf? moreAliased entry.fullName).isSome || entry.useAlias }
  rw [types] at again
  rw [finishEntry_eq, fullName_finishEntry, finishEntry_eq missing, finishEntry_eq moreMissing,
    ← again]
  simp only [ClassEntry.mapTypes]
  rw [supertypes, names, names, flags]

end Resolver
end ClassAtlas
