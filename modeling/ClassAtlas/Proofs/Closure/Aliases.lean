import Mathlib.Data.List.Nodup
import ClassAtlas.Proofs.Closure.Finishing
import ClassAtlas.Selection

/-!
# Which classes have an alias

A class is spelled by its whole path when another mapped class has its short
name. Building further classes takes no alias away, and finishing entries
changes none.
-/

namespace ClassAtlas

namespace Resolver

theorem aliasOf?_aliases_eq_some_iff {entries : List ClassEntry} {name : ClassName}
    {spelled : String} :
    aliasOf? (aliases entries) name = some spelled ↔
      spelled = name.aliasName ∧
        ∃ entry ∈ entries, collides entries entry = true ∧ entry.fullName = name := by
  unfold aliasOf? aliases
  rw [Option.map_eq_some_iff]
  constructor
  · intro listed
    rcases listed with ⟨item, found, rfl⟩
    have named : item.1 = name := by simpa using List.find?_some found
    rcases List.mem_map.mp (List.mem_of_find?_eq_some found) with ⟨entry, inFiltered, rfl⟩
    rcases List.mem_filter.mp inFiltered with ⟨mem, colliding⟩
    exact ⟨congrArg ClassName.aliasName named, entry, mem, colliding, named⟩
  · intro collides
    rcases collides with ⟨rfl, entry, mem, colliding, rfl⟩
    have listed : (entry.fullName, entry.fullName.aliasName) ∈
        (entries.filter (collides entries)).map fun other =>
          (other.fullName, other.fullName.aliasName) :=
      List.mem_map_of_mem (List.mem_filter.mpr ⟨mem, colliding⟩)
    cases found : ((entries.filter (collides entries)).map fun other =>
        (other.fullName, other.fullName.aliasName)).find? fun item =>
          item.1 = entry.fullName with
    | none =>
        have differs := List.find?_eq_none.mp found _ listed
        simp at differs
    | some item =>
        have named : item.1 = entry.fullName := by simpa using List.find?_some found
        rcases List.mem_map.mp (List.mem_of_find?_eq_some found) with ⟨other, _, rfl⟩
        exact ⟨_, rfl, congrArg ClassName.aliasName named⟩

/-!
# Growing lists of entries
-/

theorem collides_append {entries more : List ClassEntry} {entry : ClassEntry}
    (colliding : collides entries entry = true) : collides (entries ++ more) entry = true := by
  unfold collides at colliding ⊢
  rw [Bool.and_eq_true, decide_eq_true_iff] at colliding ⊢
  refine ⟨colliding.left, ?_⟩
  rw [List.filter_append, List.length_append]
  have many := colliding.right
  omega

theorem keepsAliases_append (entries more : List ClassEntry) :
    KeepsAliases (aliases entries) (aliases (entries ++ more)) := by
  intro name spelled found
  rcases aliasOf?_aliases_eq_some_iff.mp found with ⟨rfl, entry, mem, colliding, named⟩
  exact aliasOf?_aliases_eq_some_iff.mpr
    ⟨rfl, entry, List.mem_append_left _ mem, collides_append colliding, named⟩

theorem KeepsAliases.trans {first second third : List (ClassName × String)}
    (earlier : KeepsAliases first second) (later : KeepsAliases second third) :
    KeepsAliases first third :=
  fun name spelled found => later name spelled (earlier name spelled found)

/-!
# Changed entries
-/

structure KeepsNames (change : ClassEntry → ClassEntry) : Prop where
  fullName : ∀ entry, (change entry).fullName = entry.fullName
  shortName : ∀ entry, (change entry).shortName = entry.shortName
  isPrimitive : ∀ entry, (change entry).isPrimitive = entry.isPrimitive

theorem keepsNames_eraseFrom (missing : List ClassName) : KeepsNames (eraseFrom missing) :=
  ⟨fun _ => rfl, fun _ => rfl, fun _ => rfl⟩

theorem keepsNames_finishEntry (missing : List ClassName) (aliased : List (ClassName × String)) :
    KeepsNames (finishEntry missing aliased) where
  fullName := fullName_finishEntry missing aliased
  shortName := shortName_finishEntry missing aliased
  isPrimitive := isPrimitive_finishEntry missing aliased

theorem collides_map {change : ClassEntry → ClassEntry} (keeps : KeepsNames change)
    (entries : List ClassEntry) (entry : ClassEntry) :
    collides (entries.map change) (change entry) = collides entries entry := by
  have same : (fun other : ClassEntry =>
        !other.isPrimitive && decide (other.shortName = (change entry).shortName)) ∘ change =
      fun other => !other.isPrimitive && decide (other.shortName = entry.shortName) := by
    funext other
    rw [Function.comp_apply, keeps.isPrimitive, keeps.shortName, keeps.shortName]
  unfold collides
  rw [List.filter_map, same, List.length_map, keeps.isPrimitive]

theorem aliases_map {change : ClassEntry → ClassEntry} (keeps : KeepsNames change)
    (entries : List ClassEntry) : aliases (entries.map change) = aliases entries := by
  have same : collides (entries.map change) ∘ change = collides entries :=
    funext (collides_map keeps entries)
  unfold aliases
  rw [List.filter_map, same, List.map_map]
  apply List.map_congr_left
  intro entry _
  rw [Function.comp_apply, keeps.fullName]

/-!
# Collisions
-/

theorem collides_iff {entries : List ClassEntry}
    (unique : (entries.map ClassEntry.fullName).Nodup) {entry : ClassEntry}
    (mem : entry ∈ entries) :
    collides entries entry = true ↔
      entry.isPrimitive = false ∧ ∃ other ∈ entries, other.isPrimitive = false ∧
        other.shortName = entry.shortName ∧ other.fullName ≠ entry.fullName := by
  unfold collides
  rw [Bool.and_eq_true, Bool.not_eq_true', decide_eq_true_iff]
  apply and_congr_right
  intro notPrimitive
  rw [one_lt_length_filter_iff unique mem (by simp [notPrimitive])]
  simp only [Bool.and_eq_true, Bool.not_eq_true', decide_eq_true_eq, and_assoc]

theorem aliasOf?_aliases_of_mem {entries : List ClassEntry}
    (unique : (entries.map ClassEntry.fullName).Nodup) {entry : ClassEntry}
    (mem : entry ∈ entries) :
    aliasOf? (aliases entries) entry.fullName =
      if collides entries entry then some entry.fullName.aliasName else none := by
  split
  · next colliding => exact aliasOf?_aliases_eq_some_iff.mpr ⟨rfl, entry, mem, colliding, rfl⟩
  · next apart =>
      cases found : aliasOf? (aliases entries) entry.fullName with
      | none => rfl
      | some spelled =>
          rcases aliasOf?_aliases_eq_some_iff.mp found with ⟨_, other, memOther, colliding, same⟩
          rw [List.inj_on_of_nodup_map unique memOther mem same] at colliding
          exact absurd colliding apart

theorem keepsAliases_of_counterparts {entries others : List ClassEntry}
    (unique : (entries.map ClassEntry.fullName).Nodup)
    (uniqueOthers : (others.map ClassEntry.fullName).Nodup)
    (counterpart : ∀ entry ∈ entries, ∃ other ∈ others, other.fullName = entry.fullName ∧
      other.shortName = entry.shortName ∧ other.isPrimitive = entry.isPrimitive) :
    KeepsAliases (aliases entries) (aliases others) := by
  intro name spelled found
  rcases aliasOf?_aliases_eq_some_iff.mp found with ⟨spelling, entry, mem, colliding, rfl⟩
  rcases (collides_iff unique mem).mp colliding with
    ⟨notPrimitive, rival, memRival, rivalNotPrimitive, sameShort, different⟩
  rcases counterpart entry mem with ⟨other, memOther, fullName, shortName, isPrimitive⟩
  rcases counterpart rival memRival with
    ⟨otherRival, memOtherRival, rivalFullName, rivalShortName, rivalIsPrimitive⟩
  refine aliasOf?_aliases_eq_some_iff.mpr ⟨spelling, other, memOther, ?_, fullName⟩
  refine (collides_iff uniqueOthers memOther).mpr
    ⟨isPrimitive.trans notPrimitive, otherRival, memOtherRival, ?_, ?_, ?_⟩
  · exact rivalIsPrimitive.trans rivalNotPrimitive
  · rw [rivalShortName, shortName, sameShort]
  · rw [rivalFullName, fullName]
    exact different

theorem KeepsAliases.aliasOf?_eq {aliased others : List (ClassName × String)}
    (keeps : KeepsAliases aliased others) (keepsOthers : KeepsAliases others aliased) :
    aliasOf? aliased = aliasOf? others := by
  funext name
  cases found : aliasOf? aliased name with
  | some spelled => exact (keeps name spelled found).symm
  | none =>
      cases foundOther : aliasOf? others name with
      | none => rfl
      | some spelled =>
          rw [keepsOthers name spelled foundOther] at found
          cases found

end Resolver
end ClassAtlas
