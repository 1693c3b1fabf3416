import ClassAtlas.Entry.Overload
import ClassAtlas.Proofs.TargetType
import ClassAtlas.Results

/-!
# Which overloads are told apart

Two parameter lists are told apart when no argument fits both types at the first
position where they differ. A group told apart by type consists of methods each
two of which are, and grouping loses and adds no method.
-/

namespace ClassAtlas

namespace Overload

/-- At the first position where the lists differ, neither type is an arbitrary
object and the types are of different families. -/
def ToldApart (left right : List TargetType) : Prop :=
  ∃ (before lefts rights : List TargetType) (x y : TargetType),
    left = before ++ x :: lefts ∧ right = before ++ y :: rights ∧
      x ≠ .anyObject ∧ y ≠ .anyObject ∧ x.family ≠ y.family

/-!
# Where lists part
-/

/-- The lists agree before the position, and no argument fits both types there. -/
structure PartAt (position : Nat) (left right : List TargetType) : Prop where
  agree : left.take position = right.take position
  apart : ∃ x y, left[position]? = some x ∧ right[position]? = some y ∧ x.separates y = true

theorem partAt_succ_iff {position : Nat} {x y : TargetType} {lefts rights : List TargetType} :
    PartAt (position + 1) (x :: lefts) (y :: rights) ↔ x = y ∧ PartAt position lefts rights := by
  constructor
  · intro part
    rcases part with ⟨agree, apart⟩
    rcases List.cons.inj agree with ⟨same, agreeRest⟩
    exact ⟨same, agreeRest, apart⟩
  · intro both
    rcases both with ⟨rfl, agree, apart⟩
    exact ⟨congrArg (x :: ·) agree, apart⟩

theorem partAt_zero_iff {x y : TargetType} {lefts rights : List TargetType} :
    PartAt 0 (x :: lefts) (y :: rights) ↔ x.separates y = true := by
  constructor
  · intro part
    rcases part with ⟨_, a, b, atLeft, atRight, apart⟩
    rw [Option.some.inj atLeft, Option.some.inj atRight]
    exact apart
  · intro apart
    exact ⟨rfl, x, y, rfl, rfl, apart⟩

/-- The search finds where the lists part, and nothing if they do not. -/
theorem divergence?_eq_some_iff {left right : List TargetType} {position : Nat} :
    divergence? left right = some position ↔ PartAt position left right := by
  induction left generalizing right position with
  | nil =>
      constructor
      · intro found
        cases found
      · intro part
        rcases part.apart with ⟨x, y, atLeft, _⟩
        cases atLeft
  | cons x lefts ih =>
      cases right with
      | nil =>
          constructor
          · intro found
            cases found
          · intro part
            rcases part.apart with ⟨a, b, _, atRight, _⟩
            cases atRight
      | cons y rights =>
          rw [divergence?]
          split
          · next same =>
              rw [Option.map_eq_some_iff]
              cases position with
              | zero =>
                  rw [partAt_zero_iff, same, TargetType.separates_self]
                  simp
              | succ position =>
                  rw [partAt_succ_iff, ← ih]
                  simp [same]
          · next different =>
              cases position with
              | zero =>
                  rw [partAt_zero_iff]
                  split
                  · next apart => simp [apart]
                  · next together => simp [together]
              | succ position =>
                  rw [partAt_succ_iff]
                  split <;> simp [different]

theorem exists_partAt_iff {left right : List TargetType} :
    (∃ position, PartAt position left right) ↔ ToldApart left right := by
  constructor
  · intro parted
    rcases parted with ⟨position, agree, x, y, atLeft, atRight, apart⟩
    rcases List.getElem?_eq_some_iff.mp atLeft with ⟨inLeft, rfl⟩
    rcases List.getElem?_eq_some_iff.mp atRight with ⟨inRight, rfl⟩
    refine ⟨left.take position, left.drop (position + 1), right.drop (position + 1), _, _, ?_, ?_,
      TargetType.separates_iff.mp apart⟩
    · rw [← List.drop_eq_getElem_cons inLeft, List.take_append_drop]
    · rw [agree, ← List.drop_eq_getElem_cons inRight, List.take_append_drop]
  · intro toldApart
    rcases toldApart with ⟨before, lefts, rights, x, y, rfl, rfl, apart⟩
    exact ⟨before.length, by simp, x, y, by simp, by simp, TargetType.separates_iff.mpr apart⟩

theorem toldApart_cons_cons_iff {x y : TargetType} {lefts rights : List TargetType} :
    ToldApart (x :: lefts) (y :: rights) ↔
      x.separates y = true ∨ x = y ∧ ToldApart lefts rights := by
  rw [← exists_partAt_iff, ← exists_partAt_iff]
  constructor
  · intro parted
    rcases parted with ⟨position, part⟩
    cases position with
    | zero => exact Or.inl (partAt_zero_iff.mp part)
    | succ position =>
        rcases partAt_succ_iff.mp part with ⟨same, inRest⟩
        exact Or.inr ⟨same, position, inRest⟩
  · intro either
    rcases either with apart | ⟨same, position, inRest⟩
    · exact ⟨0, partAt_zero_iff.mpr apart⟩
    · exact ⟨position + 1, partAt_succ_iff.mpr ⟨same, inRest⟩⟩

theorem toldApart_cons_iff {type : TargetType} {lefts rights : List TargetType} :
    ToldApart (type :: lefts) (type :: rights) ↔ ToldApart lefts rights := by
  rw [toldApart_cons_cons_iff, TargetType.separates_self]
  simp

theorem toldApart_append_iff (before : List TargetType) {lefts rights : List TargetType} :
    ToldApart (before ++ lefts) (before ++ rights) ↔ ToldApart lefts rights := by
  induction before with
  | nil => rfl
  | cons first before ih => exact toldApart_cons_iff.trans ih

theorem toldApart_cons_of_ne {x y : TargetType} {lefts rights : List TargetType}
    (different : x ≠ y) :
    ToldApart (x :: lefts) (y :: rights) ↔
      x ≠ .anyObject ∧ y ≠ .anyObject ∧ x.family ≠ y.family := by
  rw [toldApart_cons_cons_iff, TargetType.separates_iff]
  simp [different]

theorem exists_divergence?_iff {left right : List TargetType} :
    (∃ position, divergence? left right = some position) ↔ ToldApart left right := by
  rw [← exists_partAt_iff]
  exact exists_congr fun _ => divergence?_eq_some_iff

/-!
# Pairs
-/

theorem pairwise_iff_pairs {items : List α} {R : α → α → Prop} :
    items.Pairwise R ↔ ∀ pair ∈ pairs items, R pair.1 pair.2 := by
  induction items with
  | nil => simp [pairs]
  | cons first rest ih =>
      rw [List.pairwise_cons, pairs, ih]
      constructor
      · intro both pair mem
        rcases both with ⟨withFirst, inRest⟩
        rcases List.mem_append.mp mem with isFirst | later
        · rcases List.mem_map.mp isFirst with ⟨other, inOthers, rfl⟩
          exact withFirst other inOthers
        · exact inRest pair later
      · intro each
        constructor
        · intro other mem
          exact each (first, other) (List.mem_append_left _ (List.mem_map_of_mem mem))
        · intro pair mem
          exact each pair (List.mem_append_right _ mem)

theorem exists_mapM_pairs_iff {methods : List MethodEntry} :
    (∃ positions, (pairs methods).mapM
        (fun pair => divergence? pair.1.targetParams pair.2.targetParams) = some positions) ↔
      methods.Pairwise fun left right => ToldApart left.targetParams right.targetParams := by
  rw [pairwise_iff_pairs]
  constructor
  · intro succeeded pair mem
    rcases succeeded with ⟨positions, found⟩
    rcases (mem_of_mapM_eq_some found).left pair mem with ⟨position, _, divergent⟩
    exact exists_divergence?_iff.mp ⟨position, divergent⟩
  · intro each
    exact exists_mapM_eq_some fun pair mem => exists_divergence?_iff.mpr (each pair mem)

theorem pairwise_of_separation? {methods : List MethodEntry} {position : Nat}
    (separated : separation? methods = some position) :
    methods.Pairwise fun left right => ToldApart left.targetParams right.targetParams := by
  unfold separation? at separated
  rcases Option.bind_eq_some_iff.mp separated with ⟨positions, found, _⟩
  exact exists_mapM_pairs_iff.mp ⟨positions, found⟩

/-!
# Groups
-/

theorem methods_group (arity : Nat) (methods : List MethodEntry) :
    (group arity methods).methods = methods := by
  unfold group
  split
  · rfl
  · split <;> rfl

theorem separation?_of_group {arity count position : Nat} {methods members : List MethodEntry}
    (isGroup : group arity methods = .byType count position members) :
    methods = members ∧ separation? members = some position := by
  unfold group at isGroup
  split at isGroup
  · cases isGroup
  · split at isGroup
    · next found separated =>
        cases isGroup
        exact ⟨rfl, separated⟩
    · cases isGroup

theorem arity_group (arity : Nat) (methods : List MethodEntry) :
    (group arity methods).arity = arity := by
  unfold group
  split
  · rfl
  · split <;> rfl

theorem mem_groupMethods_iff {methods : List MethodEntry} {member : OverloadGroup} :
    member ∈ groupMethods methods ↔ ∃ arity ∈ methods.map MethodEntry.arity,
      group arity (methods.filter fun method => method.arity = arity) = member := by
  rw [groupMethods, (sortByRank_perm OverloadGroup.minArity _).mem_iff, grouped, List.map_map,
    List.mem_map]
  simp only [mem_distinct, Function.comp_apply]

theorem mem_map_arity_groupMethods_iff {methods : List MethodEntry} {arity : Nat} :
    arity ∈ (groupMethods methods).map OverloadGroup.arity ↔
      arity ∈ methods.map MethodEntry.arity := by
  rw [List.mem_map]
  constructor
  · intro isGroup
    rcases isGroup with ⟨member, mem, rfl⟩
    rcases mem_groupMethods_iff.mp mem with ⟨arity, occurs, rfl⟩
    rw [arity_group]
    exact occurs
  · intro occurs
    exact ⟨_, mem_groupMethods_iff.mpr ⟨arity, occurs, rfl⟩, arity_group arity _⟩

theorem methods_of_mem_groupMethods {methods : List MethodEntry} {member : OverloadGroup}
    (mem : member ∈ groupMethods methods) :
    member.methods = methods.filter fun method => method.arity = member.arity := by
  rcases mem_groupMethods_iff.mp mem with ⟨arity, _, rfl⟩
  rw [methods_group, arity_group]

theorem methods_ne_nil_of_mem_groupMethods {methods : List MethodEntry} {member : OverloadGroup}
    (mem : member ∈ groupMethods methods) : member.methods ≠ [] := by
  have occurs := mem_map_arity_groupMethods_iff.mp (List.mem_map_of_mem mem)
  rcases List.mem_map.mp occurs with ⟨method, inMethods, hasArity⟩
  rw [methods_of_mem_groupMethods mem]
  exact List.ne_nil_of_mem (List.mem_filter.mpr ⟨inMethods, decide_eq_true hasArity⟩)

theorem separation?_of_mem_groupMethods {methods members : List MethodEntry}
    {count position : Nat} (mem : .byType count position members ∈ groupMethods methods) :
    separation? members = some position := by
  rcases mem_groupMethods_iff.mp mem with ⟨arity, _, isGroup⟩
  exact (separation?_of_group isGroup).right

theorem mem_of_mem_groupMethods {methods : List MethodEntry} {group : OverloadGroup}
    (inGroups : group ∈ groupMethods methods) {method : MethodEntry}
    (mem : method ∈ group.methods) : method ∈ methods := by
  rw [methods_of_mem_groupMethods inGroups] at mem
  exact (List.mem_filter.mp mem).left

theorem groupByName_eq (methods : List MethodEntry) :
    groupByName methods = (distinct (methods.map MethodEntry.name)).map fun name =>
      (name, groupMethods (methods.filter fun method => method.name = name)) := by
  rw [groupByName, grouped, List.map_map]
  rfl

theorem groups_of_mem_groupByName {methods : List MethodEntry} {name : String}
    {groups : List OverloadGroup} (mem : (name, groups) ∈ groupByName methods) :
    groups = groupMethods (methods.filter fun method => method.name = name) := by
  rw [groupByName_eq] at mem
  rcases List.mem_map.mp mem with ⟨key, _, same⟩
  rcases Prod.mk.inj same with ⟨rfl, rfl⟩
  rfl

theorem mem_of_mem_groupByName {methods : List MethodEntry} {method : MethodEntry}
    (mem : method ∈ (groupByName methods).flatMap fun item =>
      item.2.flatMap OverloadGroup.methods) : method ∈ methods := by
  rcases List.mem_flatMap.mp mem with ⟨⟨name, groups⟩, inVariants, inItem⟩
  rcases List.mem_flatMap.mp inItem with ⟨group, inGroups, inGroup⟩
  rw [groups_of_mem_groupByName inVariants] at inGroups
  exact (List.mem_filter.mp (mem_of_mem_groupMethods inGroups inGroup)).left

end Overload
end ClassAtlas
