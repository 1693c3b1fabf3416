import ClassAtlas.Proofs.Closure.History
import ClassAtlas.Proofs.Entry.TargetTypes

/-!
# References and definitions agree

When nothing is left to do, every class that an entry mentions is mapped, and it
is mentioned under the name it has. A class has its whole path for a name exactly
when another class shares its short name.
-/

namespace ClassAtlas

namespace Resolver

/-- Every class is spelled in one way, by its own entry and by all others. -/
structure SpellsTogether (resolver : Resolver) : Prop where
  names_nodup : resolver.names.Nodup
  fullName : ∀ item ∈ resolver.classes, item.2.fullName = item.1
  reference : ∀ item ∈ resolver.classes, ∀ type ∈ item.2.targetTypes, ∀ other spelled,
    type.reference? = some (other, spelled) →
      ∃ target, (other, target) ∈ resolver.classes ∧ spelled = target.aliasName
  useAlias : ∀ item ∈ resolver.classes, item.2.useAlias = true ↔
    item.2.isPrimitive = false ∧ ∃ other ∈ resolver.classes, other.1 ≠ item.1 ∧
      other.2.isPrimitive = false ∧ other.2.shortName = item.2.shortName
  aliasName : ∀ item ∈ resolver.classes,
    item.2.aliasName = if item.2.useAlias then item.1.aliasName else item.2.shortName
  targetType : ∀ item ∈ resolver.classes,
    item.2.isPrimitive = false → item.2.targetType = item.2.aliasName

variable {whitelist : Whitelist} {served : ClassName → ClassDecl → Prop} {resolver : Resolver}

theorem Sound.exists_finished (sound : Sound whitelist served resolver)
    (drained : resolver.phase = .drained) {item : ClassName × ClassEntry}
    (mem : item ∈ resolver.classes) :
    ∃ decl built, Rooted whitelist served resolver item.1 item.2 decl built ∧
      built.Derived whitelist.registry ∧ built.fullName = item.1 ∧
      item.2 = finishEntry resolver.missing (aliases resolver.entries) built := by
  rcases sound.rooted item mem with ⟨decl, built, rooted⟩
  rcases ClassDecl.parts_of_toEntry rooted.made with ⟨_, _, _, fullName, _⟩
  have derived := ClassDecl.derived_of_toEntry rooted.made
  exact ⟨decl, built, rooted, derived, fullName.trans rooted.named, rooted.finished drained⟩

theorem Sound.aliasOf? (sound : Sound whitelist served resolver)
    {item : ClassName × ClassEntry} (mem : item ∈ resolver.classes) :
    Resolver.aliasOf? (aliases resolver.entries) item.1 =
      if collides resolver.entries item.2 then some item.1.aliasName else none := by
  have inEntries : item.2 ∈ resolver.entries := List.mem_map_of_mem mem
  have found := aliasOf?_aliases_of_mem sound.fullNames_nodup inEntries
  rw [sound.fullName mem] at found
  exact found

theorem Sound.names_of_drained (sound : Sound whitelist served resolver)
    (drained : resolver.phase = .drained) {item : ClassName × ClassEntry}
    (mem : item ∈ resolver.classes) :
    item.2.shortName = item.1.shortName ∧
    item.2.useAlias = collides resolver.entries item.2 ∧
    item.2.aliasName =
      (Resolver.aliasOf? (aliases resolver.entries) item.1).getD item.1.shortName ∧
    (item.2.isPrimitive = false → item.2.targetType = item.2.aliasName) := by
  rcases sound.exists_finished drained mem with
    ⟨decl, built, rooted, derived, fullName, finished⟩
  have spelling := sound.aliasOf? mem
  have primitive := rooted.isPrimitive
  have shortName : item.2.shortName = item.1.shortName := by
    rw [rooted.shortName, derived.shortName, fullName]
  have parts := finishEntry_eq resolver.missing (aliases resolver.entries) built
  rw [← finished, fullName] at parts
  have aliasName : item.2.aliasName =
      (Resolver.aliasOf? (aliases resolver.entries) item.1).getD item.1.shortName := by
    rw [congrArg ClassEntry.aliasName parts, ← fullName, ← derived.aliasName]
    rfl
  refine ⟨shortName, ?_, aliasName, ?_⟩
  · have flag : item.2.useAlias =
        ((Resolver.aliasOf? (aliases resolver.entries) item.1).isSome || built.useAlias) :=
      congrArg ClassEntry.useAlias parts
    rw [flag, derived.useAlias, spelling, Bool.or_false]
    cases collides resolver.entries item.2 <;> rfl
  · intro notPrimitive
    have ownType := derived.targetType (primitive ▸ notPrimitive)
    have type : item.2.targetType =
        (Resolver.aliasOf? (aliases resolver.entries) item.1).getD built.targetType :=
      congrArg ClassEntry.targetType parts
    rw [type, aliasName, ownType, fullName]

theorem Sound.useAlias_iff (sound : Sound whitelist served resolver)
    (drained : resolver.phase = .drained) {item : ClassName × ClassEntry}
    (mem : item ∈ resolver.classes) :
    item.2.useAlias = true ↔
      item.2.isPrimitive = false ∧ ∃ other ∈ resolver.classes, other.1 ≠ item.1 ∧
        other.2.isPrimitive = false ∧ other.2.shortName = item.2.shortName := by
  rcases sound.names_of_drained drained mem with ⟨_, flag, _, _⟩
  have inEntries : item.2 ∈ resolver.entries := List.mem_map_of_mem mem
  rw [flag, collides_iff sound.fullNames_nodup inEntries]
  apply and_congr_right
  intro _
  constructor
  · intro shared
    rcases shared with ⟨entry, listed, notPrimitive, sameShort, different⟩
    rcases List.mem_map.mp listed with ⟨other, inClasses, rfl⟩
    rw [sound.fullName inClasses, sound.fullName mem] at different
    exact ⟨other, inClasses, different, notPrimitive, sameShort⟩
  · intro shared
    rcases shared with ⟨other, inClasses, different, notPrimitive, sameShort⟩
    refine ⟨other.2, List.mem_map_of_mem inClasses, notPrimitive, sameShort, ?_⟩
    rw [sound.fullName inClasses, sound.fullName mem]
    exact different

theorem Sound.aliasName (sound : Sound whitelist served resolver)
    (drained : resolver.phase = .drained) {item : ClassName × ClassEntry}
    (mem : item ∈ resolver.classes) :
    item.2.aliasName = if item.2.useAlias then item.1.aliasName else item.2.shortName := by
  rcases sound.names_of_drained drained mem with ⟨shortName, flag, aliasName, _⟩
  rw [aliasName, sound.aliasOf? mem, flag, shortName]
  cases collides resolver.entries item.2 <;> rfl

/-- A class that a target type mentions once nothing is left to do is mapped. -/
theorem Sound.mem_names_of_reference (sound : Sound whitelist served resolver)
    (configured : whitelist.IsConfigured) (drained : resolver.phase = .drained)
    {item : ClassName × ClassEntry} (mem : item ∈ resolver.classes) {type : TargetType}
    (inEntry : type ∈ item.2.targetTypes) {other : ClassName} {spelled : String}
    (mentions : type.reference? = some (other, spelled)) :
    other ∈ resolver.names ∧
      spelled = (Resolver.aliasOf? (aliases resolver.entries) other).getD other.shortName := by
  rcases sound.exists_finished drained mem with ⟨decl, built, rooted, _, _, finished⟩
  rw [finished] at inEntry
  rcases exists_of_mem_targetTypes_finishEntry inEntry with ⟨earlier, inBuilt, rfl⟩
  rcases reference?_finishType mentions with ⟨notMissing, before, mentionedBefore, respelled⟩
  rcases ClassDecl.exists_mentions_of_toEntry rooted.made with ⟨names, mentioned⟩
  rcases ClassDecl.mem_mentions_of_reference configured rooted.made mentioned inBuilt
    mentionedBefore with ⟨inNames, admitted, short⟩
  constructor
  · have nothing := sound.coherent.quiet drained
    rcases rooted.covered names mentioned other inNames admitted with isDone | waits
    · rcases (sound.coherent.done_iff other).mp isDone with isBuilt | isMissing
      · exact isBuilt
      · exact absurd isMissing notMissing
    · rw [Agenda.waiting, nothing] at waits
      cases waits
  · rw [respelled, short]

theorem Sound.spellsTogether (sound : Sound whitelist served resolver)
    (configured : whitelist.IsConfigured) (drained : resolver.phase = .drained) :
    SpellsTogether resolver := by
  constructor
  · exact sound.coherent.names_nodup
  · intro item mem
    exact sound.fullName mem
  · intro item mem type inEntry other spelled mentions
    rcases sound.mem_names_of_reference configured drained mem inEntry mentions with
      ⟨mapped, respelled⟩
    rcases List.mem_map.mp mapped with ⟨⟨_, target⟩, inClasses, rfl⟩
    rcases sound.names_of_drained drained inClasses with ⟨_, _, aliasName, _⟩
    exact ⟨target, inClasses, respelled.trans aliasName.symm⟩
  · intro item mem
    exact sound.useAlias_iff drained mem
  · intro item mem
    exact sound.aliasName drained mem
  · intro item mem notPrimitive
    rcases sound.names_of_drained drained mem with ⟨_, _, _, targetType⟩
    exact targetType notPrimitive

/-- Whatever was asked of a resolver and however its sources behaved: once it is
drained, references and definitions agree. -/
theorem spellsTogether_of_history {events : List Event} (configured : whitelist.IsConfigured)
    (history : History whitelist events resolver) (drained : resolver.phase = .drained) :
    SpellsTogether resolver :=
  history.sound.spellsTogether configured drained

open ClassDecl (overloaded) in
theorem spellsTogether_of_history_overloaded :
    ∃ events resolver, History (Whitelist.ofRules [.package "a"]) events resolver ∧
      resolver.phase = .drained ∧ resolver.names = [overloaded.name] ∧
      SpellsTogether resolver := by
  rcases build_overloaded with ⟨entry, built⟩
  rcases drain_overloaded built with ⟨ends, last, later, drained, classes, _⟩
  have configured : (Whitelist.ofRules [.package "a"]).IsConfigured :=
    Whitelist.isConfigured_of_parse (show Whitelist.parse ["a.*"] = _ from rfl)
  have history := (History.start.addSeeds [overloaded.name]).drained
    (Snapshot.ofDecls [overloaded]).source [] ends
  rw [drained] at history
  have names : last.finish.names = [overloaded.name] := by
    rw [names_finish, Resolver.names, classes]
    rfl
  exact ⟨_, last.finish, history, rfl, names, spellsTogether_of_history configured history rfl⟩

end Resolver
end ClassAtlas
