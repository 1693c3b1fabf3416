import ClassAtlas.Proofs.Closure.Spellings
import ClassAtlas.Proofs.Entry.Partition

/-!
# Both copies of a method

An entry holds each method twice: in the list of its methods and in the group of its call
shape. The groups of a name are a partition of the methods of that name, and all that is
done to an entry later is done to both copies.
-/

namespace ClassAtlas

/-!
# Entries whose copies agree
-/

namespace ClassEntry

/-- The groups hold each method once, under its name, and nothing else. -/
structure InStep (entry : ClassEntry) : Prop where
  copies : entry.groupedMethods.Perm entry.methods
  names : entry.variants.map Prod.fst = distinct (entry.methods.map MethodEntry.name)
  named : ∀ name groups, (name, groups) ∈ entry.variants →
    (groups.flatMap OverloadGroup.methods).Perm
      (entry.methods.filter fun method => method.name = name)

theorem Derived.inStep {registry : Registry} {entry : ClassEntry}
    (derived : entry.Derived registry) : InStep entry := by
  constructor
  · rw [groupedMethods, derived.variants]
    exact Overload.flatMap_groupByName_perm entry.methods
  · rw [derived.variants]
    exact Overload.fst_groupByName entry.methods
  · intro name groups mem
    rw [derived.variants] at mem
    exact Overload.perm_of_mem_groupByName mem

theorem InStep.mapTypes {entry : ClassEntry} (inStep : InStep entry)
    (change : TargetType → TargetType) : InStep (entry.mapTypes change) := by
  have sameNames : MethodEntry.name ∘ MethodEntry.mapTypes change = MethodEntry.name := rfl
  constructor
  · rw [groupedMethods_mapTypes]
    exact inStep.copies.map _
  · show (entry.variants.map _).map Prod.fst =
      distinct ((entry.methods.map (MethodEntry.mapTypes change)).map MethodEntry.name)
    rw [List.map_map, List.map_map, sameNames]
    exact inStep.names
  · intro name groups mem
    rcases List.mem_map.mp mem with ⟨⟨earlierName, earlier⟩, inVariants, same⟩
    rcases Prod.mk.inj same with ⟨rfl, rfl⟩
    have groupsChanged : (earlier.map (OverloadGroup.mapMethods
        (MethodEntry.mapTypes change))).flatMap OverloadGroup.methods =
          (earlier.flatMap OverloadGroup.methods).map (MethodEntry.mapTypes change) := by
      simp only [List.flatMap_map, List.map_flatMap, OverloadGroup.methods_mapMethods]
    rw [groupsChanged]
    show List.Perm _ ((entry.methods.map (MethodEntry.mapTypes change)).filter _)
    rw [List.filter_map]
    exact (inStep.named earlierName earlier inVariants).map _

end ClassEntry

namespace Resolver

open ClassEntry (InStep)

theorem inStep_finishEntry {entry : ClassEntry} (inStep : InStep entry)
    (missing : List ClassName) (aliased : List (ClassName × String)) :
    InStep (finishEntry missing aliased entry) := by
  rw [finishEntry_eq]
  apply InStep.mapTypes
  exact ⟨inStep.copies, inStep.names, inStep.named⟩

variable {whitelist : Whitelist} {events : List Event} {resolver : Resolver}

/-- Whatever was asked of a resolver and however its sources behaved: once it is drained,
the groups of every entry hold its methods, each once and under its name, with the types
that the methods have. -/
theorem inStep_of_history (history : History whitelist events resolver)
    (drained : resolver.phase = .drained) :
    ∀ item ∈ resolver.classes, InStep item.2 := by
  intro item mem
  rcases history.sound.exists_finished drained mem with ⟨_, built, _, derived, _, finished⟩
  rw [finished]
  exact inStep_finishEntry derived.inStep _ _

open ClassDecl (overloaded) in
theorem inStep_of_history_overloaded :
    ∃ events resolver entry, History (Whitelist.ofRules [.package "a"]) events resolver ∧
      resolver.phase = .drained ∧ (overloaded.name, entry) ∈ resolver.classes ∧
      resolver.missing = [⟨"a.Gone"⟩] ∧ InStep entry := by
  rcases build_overloaded with ⟨entry, built⟩
  rcases drain_overloaded built with ⟨ends, last, later, drained, classes, missing⟩
  have history := (History.start.addSeeds [overloaded.name]).drained
    (Snapshot.ofDecls [overloaded]).source [] ends
  rw [drained] at history
  have isMapped : (overloaded.name, finishEntry last.missing (aliases last.entries) entry) ∈
      last.finish.classes := by
    rw [classes_finish, classes]
    exact List.mem_cons_self
  exact ⟨_, last.finish, _, history, rfl, isMapped, missing,
    inStep_of_history history rfl _ isMapped⟩

end Resolver
end ClassAtlas
