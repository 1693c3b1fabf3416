import Mathlib.Data.List.Perm.Basic
import ClassAtlas.Proofs.Entry.Overloads
import ClassAtlas.Proofs.Grouping

/-!
# Groups partition the methods

The methods of a name are put into groups by their number of parameters, and no method is
lost, moved or repeated. The groups come by the fewest arguments of a call. Where these are
equal, they come in the order in which the numbers of parameters first occur.
-/

namespace ClassAtlas

namespace Overload

/-!
# No method is lost
-/

theorem flatMap_groupMethods_perm (methods : List MethodEntry) :
    ((groupMethods methods).flatMap OverloadGroup.methods).Perm methods := by
  have sorted := (sortByRank_perm OverloadGroup.minArity ((grouped MethodEntry.arity methods).map
    fun counted => group counted.1 counted.2)).flatMap_right OverloadGroup.methods
  have members : ((grouped MethodEntry.arity methods).map fun counted =>
      group counted.1 counted.2).flatMap OverloadGroup.methods =
        (grouped MethodEntry.arity methods).flatMap Prod.snd := by
    rw [List.flatMap_map]
    exact List.flatMap_congr fun counted _ => methods_group counted.1 counted.2
  rw [members] at sorted
  exact sorted.trans (flatMap_grouped_perm MethodEntry.arity methods)

theorem fst_groupByName (methods : List MethodEntry) :
    (groupByName methods).map Prod.fst = distinct (methods.map MethodEntry.name) := by
  rw [groupByName_eq, List.map_map]
  exact List.map_id _

theorem perm_of_mem_groupByName {methods : List MethodEntry} {name : String}
    {groups : List OverloadGroup} (mem : (name, groups) ∈ groupByName methods) :
    (groups.flatMap OverloadGroup.methods).Perm
      (methods.filter fun method => method.name = name) := by
  rw [groups_of_mem_groupByName mem]
  exact flatMap_groupMethods_perm _

theorem flatMap_groupByName_perm (methods : List MethodEntry) :
    ((groupByName methods).flatMap fun item => item.2.flatMap OverloadGroup.methods).Perm
      methods := by
  rw [groupByName, List.flatMap_map]
  have each : ∀ item ∈ grouped MethodEntry.name methods,
      ((groupMethods item.2).flatMap OverloadGroup.methods).Perm item.2 :=
    fun item _ => flatMap_groupMethods_perm item.2
  exact (List.Perm.flatMap_left _ each).trans (flatMap_grouped_perm MethodEntry.name methods)

/-!
# Keys

The key of a group is its number of parameters in digits, followed by a mark or by nothing.
-/

theorem takeWhile_isDigit_toDigits (n : Nat) {rest : List Char}
    (mark : rest.takeWhile Char.isDigit = []) :
    (Nat.toDigits 10 n ++ rest).takeWhile Char.isDigit = Nat.toDigits 10 n := by
  have digits : ∀ c ∈ Nat.toDigits 10 n, c.isDigit = true :=
    fun c mem => Nat.isDigit_of_mem_toDigits (by decide) (by decide) mem
  rw [List.takeWhile_append_of_pos digits, mark, List.append_nil]

theorem exists_toList_key (member : OverloadGroup) :
    ∃ rest : List Char, member.key.toList = Nat.toDigits 10 member.arity ++ rest ∧
      rest.takeWhile Char.isDigit = [] := by
  cases member with
  | single arity method => exact ⟨[], by simp [OverloadGroup.key, OverloadGroup.arity], rfl⟩
  | byType arity divergentAt methods =>
      exact ⟨'@' :: Nat.toDigits 10 divergentAt,
        by simp [OverloadGroup.key, OverloadGroup.arity], rfl⟩
  | union arity methods =>
      exact ⟨['|', 'u', 'n', 'i', 'o', 'n'], by simp [OverloadGroup.key, OverloadGroup.arity], rfl⟩

theorem arity_eq_of_key_eq {left right : OverloadGroup} (same : left.key = right.key) :
    left.arity = right.arity := by
  rcases exists_toList_key left with ⟨restLeft, spelledLeft, markLeft⟩
  rcases exists_toList_key right with ⟨restRight, spelledRight, markRight⟩
  have digits : Nat.toDigits 10 left.arity = Nat.toDigits 10 right.arity := by
    rw [← takeWhile_isDigit_toDigits left.arity markLeft, ← spelledLeft, same, spelledRight,
      takeWhile_isDigit_toDigits right.arity markRight]
  calc
    left.arity = Nat.ofDigitChars 10 (Nat.toDigits 10 left.arity) 0 :=
      Nat.ofDigitChars_ten_toDigits.symm
    _ = Nat.ofDigitChars 10 (Nat.toDigits 10 right.arity) 0 := by rw [digits]
    _ = right.arity := Nat.ofDigitChars_ten_toDigits

/-!
# Numbers of parameters and of arguments
-/

theorem arities_perm_distinct (methods : List MethodEntry) :
    ((groupMethods methods).map OverloadGroup.arity).Perm
      (distinct (methods.map MethodEntry.arity)) := by
  have arities := (sortByRank_perm OverloadGroup.minArity ((grouped MethodEntry.arity methods).map
    fun counted => group counted.1 counted.2)).map OverloadGroup.arity
  have each : ((grouped MethodEntry.arity methods).map fun counted =>
      group counted.1 counted.2).map OverloadGroup.arity =
        (grouped MethodEntry.arity methods).map Prod.fst := by
    rw [List.map_map]
    exact List.map_congr_left fun counted _ => arity_group counted.1 counted.2
  rw [each, fst_grouped] at arities
  exact arities

theorem nodup_arities (methods : List MethodEntry) :
    ((groupMethods methods).map OverloadGroup.arity).Nodup :=
  (arities_perm_distinct methods).nodup_iff.mpr (nodup_distinct _)

theorem nodup_keys (methods : List MethodEntry) :
    ((groupMethods methods).map OverloadGroup.key).Nodup := by
  have arities := nodup_arities methods
  rw [List.Nodup, List.pairwise_map] at arities ⊢
  exact arities.imp fun different same => different (arity_eq_of_key_eq same)

theorem pred_arity_le_minArity (method : MethodEntry) : method.arity - 1 ≤ method.minArity := by
  unfold MethodEntry.minArity
  split
  · exact Nat.le_refl _
  · exact Nat.sub_le _ 1

/-- A variable tail lets a call of the group have one argument less. -/
theorem minArity_of_mem_groupMethods {methods : List MethodEntry} {member : OverloadGroup}
    (mem : member ∈ groupMethods methods) :
    member.minArity =
      if member.methods.any MethodEntry.isVarArgs then member.arity - 1 else member.arity := by
  have sameArity : ∀ method ∈ member.methods, method.arity = member.arity := by
    intro method inGroup
    rw [methods_of_mem_groupMethods mem] at inGroup
    exact of_decide_eq_true (List.mem_filter.mp inGroup).right
  have least : (member.methods.map MethodEntry.minArity).min? =
      some (if member.methods.any MethodEntry.isVarArgs then member.arity - 1
        else member.arity) := by
    rw [List.min?_eq_some_iff, List.forall_mem_map, List.mem_map]
    split
    · next spreads =>
        rcases List.any_eq_true.mp spreads with ⟨method, inGroup, varArgs⟩
        refine ⟨⟨method, inGroup, ?_⟩, ?_⟩
        · rw [MethodEntry.minArity, if_pos varArgs, sameArity method inGroup]
        · intro other inGroup
          rw [← sameArity other inGroup]
          exact pred_arity_le_minArity other
    · next fixed =>
        have each : ∀ method ∈ member.methods, method.minArity = member.arity := by
          intro method inGroup
          have notVarArgs : ¬method.isVarArgs = true := fun varArgs =>
            fixed (List.any_eq_true.mpr ⟨method, inGroup, varArgs⟩)
          rw [MethodEntry.minArity, if_neg notVarArgs, sameArity method inGroup]
        rcases List.exists_mem_of_ne_nil _ (methods_ne_nil_of_mem_groupMethods mem) with
          ⟨method, inGroup⟩
        exact ⟨⟨method, inGroup, each method inGroup⟩,
          fun other inGroup => Nat.le_of_eq (each other inGroup).symm⟩
  rw [OverloadGroup.minArity, least, Option.getD_some]

/-!
# The order of the groups
-/

/-- A group comes before another that needs more arguments, or as many if its number of
parameters occurs first. -/
def Precedes (methods : List MethodEntry) (earlier later : OverloadGroup) : Prop :=
  earlier.minArity < later.minArity ∨
    earlier.minArity = later.minArity ∧
      (methods.map MethodEntry.arity).idxOf earlier.arity <
        (methods.map MethodEntry.arity).idxOf later.arity

theorem pairwise_precedes (methods : List MethodEntry) :
    (groupMethods methods).Pairwise (Precedes methods) := by
  apply pairwise_sortByRank
  have first := pairwise_idxOf_distinct (methods.map MethodEntry.arity)
  rw [← fst_grouped, List.pairwise_map] at first
  rw [List.pairwise_map]
  exact first.imp fun before => by rw [arity_group, arity_group]; exact before

/-- The groups hold the methods, each those with its number of parameters. -/
structure Partitions (groups : List OverloadGroup) (methods : List MethodEntry) : Prop where
  members : (groups.flatMap OverloadGroup.methods).Perm methods
  occupied : ∀ member ∈ groups, member.methods ≠ []
  complete : ∀ member ∈ groups,
    member.methods = methods.filter fun method => method.arity = member.arity
  arities : (groups.map OverloadGroup.arity).Nodup
  keys : (groups.map OverloadGroup.key).Nodup
  fewest : ∀ member ∈ groups,
    member.minArity =
      if member.methods.any MethodEntry.isVarArgs then member.arity - 1 else member.arity
  ordered : groups.Pairwise (Precedes methods)

theorem partitions_groupMethods (methods : List MethodEntry) :
    Partitions (groupMethods methods) methods where
  members := flatMap_groupMethods_perm methods
  occupied := fun _ mem => methods_ne_nil_of_mem_groupMethods mem
  complete := fun _ mem => methods_of_mem_groupMethods mem
  arities := nodup_arities methods
  keys := nodup_keys methods
  fewest := fun _ mem => minArity_of_mem_groupMethods mem
  ordered := pairwise_precedes methods

/-- The groups of methods partition them. Methods of several names are partitioned name by
name, in the order in which the names first occur, and none is lost or moved. -/
theorem groupByName_partitions (methods : List MethodEntry) :
    Partitions (groupMethods methods) methods ∧
    (∃ names : List String,
      (∀ name, name ∈ names ↔ ∃ method ∈ methods, method.name = name) ∧
      names.Pairwise (fun earlier later =>
        (methods.map MethodEntry.name).idxOf earlier <
          (methods.map MethodEntry.name).idxOf later) ∧
      groupByName methods = names.map fun name =>
        (name, groupMethods (methods.filter fun method => method.name = name))) ∧
    (∀ name groups, (name, groups) ∈ groupByName methods →
      Partitions groups (methods.filter fun method => method.name = name)) ∧
    ((groupByName methods).flatMap fun item => item.2.flatMap OverloadGroup.methods).Perm
      methods := by
  refine ⟨partitions_groupMethods methods, ⟨distinct (methods.map MethodEntry.name), ?_,
    pairwise_idxOf_distinct _, groupByName_eq methods⟩, ?_, flatMap_groupByName_perm methods⟩
  · intro name
    rw [mem_distinct, List.mem_map]
  · intro name groups mem
    rw [groups_of_mem_groupByName mem]
    exact partitions_groupMethods _

end Overload
end ClassAtlas
